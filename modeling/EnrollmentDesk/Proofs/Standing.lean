import EnrollmentDesk.Proofs.Edit

/-!
# Who stands before whom, after an edit

A rank counts the active registrations seated before one, so it is moved only by those who come, go
or are checked in. Two facts make this precise. A rebalance changes nobody's *place* (`SamePlace`):
the status due to everyone afterwards is the one that was due before (`Store.due_seated`). And an
edit exchanges at most one registration of its class, and none of any other
(`Edit.registrationsOf_apply`), so ranks before and after differ by at most that one.
-/

namespace EnrollmentDesk

namespace Seating

/-- Two states of a registration between which its place in the order of seating is the same. -/
structure SamePlace (q' q : Registration) : Prop where
  anchored : q'.isAnchored = q.isAnchored
  createdAt : q'.createdAt = q.createdAt
  id : q'.id = q.id

variable {rs : List Registration} {q q' r r' : Registration}

theorem SamePlace.refl (r : Registration) : SamePlace r r := ⟨rfl, rfl, rfl⟩

theorem SamePlace.precedes_eq (hq : SamePlace q' q) (hr : SamePlace r' r) :
    precedes q' r' = precedes q r := by
  unfold precedes before Registration.inLine
  rw [hq.anchored, hq.createdAt, hq.id, hr.anchored, hr.createdAt, hr.id]

/-- Ranks stay if everybody keeps their place and nobody comes or goes. -/
theorem rank_map {f : Registration → Registration} (active : ∀ q, (f q).isActive = q.isActive)
    (place : ∀ q, SamePlace (f q) q) (rs : List Registration) (r : Registration) :
    rank (rs.map f) (f r) = rank rs r := by
  unfold rank
  rw [List.countP_map]
  refine List.countP_congr fun q _ => ?_
  rw [Function.comp_apply, active, (place q).precedes_eq (place r)]

theorem rank_append (rs rs' : List Registration) (r : Registration) :
    rank (rs ++ rs') r = rank rs r + rank rs' r :=
  List.countP_append

theorem rank_singleton (q r : Registration) :
    rank [q] r = if q.isActive && precedes q r then 1 else 0 := by
  unfold rank
  rw [List.countP_singleton]

end Seating

open Seating

namespace Store

variable (s : Store) (c : Class) (now : Instant) (r : Registration)

/-! ### Rebalancing -/

theorem seatedRow_classId : (s.seatedRow c now r).classId = r.classId := by
  unfold seatedRow
  split
  · exact r.reseated_classId _ _
  · rfl

theorem seatedRow_samePlace : SamePlace (s.seatedRow c now r) r := by
  unfold seatedRow
  split
  · refine ⟨?_, r.reseated_createdAt _ _, r.reseated_id _ _⟩
    unfold Registration.isAnchored
    rw [r.reseated_checkInAt]
  · exact .refl r

theorem seatedRow_isActive : (s.seatedRow c now r).isActive = r.isActive := by
  unfold seatedRow
  split
  · next h =>
    rw [h.2, Registration.isActive_iff, r.reseated_status]
    exact due_eq_or _ _ _
  · rfl

variable {s c now r}

theorem seatedRow_of_classId_ne (h : r.classId ≠ c.id) : s.seatedRow c now r = r := by
  unfold seatedRow
  rw [if_neg fun h' => h h'.1]

theorem seatedRow_of_not_active (h : r.isActive = false) : s.seatedRow c now r = r := by
  unfold seatedRow
  rw [if_neg fun h' => by rw [h] at h'; exact nomatch h'.2]

/-- Who has the status due is left alone. -/
theorem seatedRow_of_eq
    (same : r.classId = c.id → r.isActive = true → r.status = s.due c r) :
    s.seatedRow c now r = r := by
  unfold seatedRow
  split
  · next hin => exact r.reseated_of_status_eq (same hin.1 hin.2) now
  · rfl

/-- Who has another status is given the one due. -/
theorem seatedRow_of_ne (place : r.classId = c.id) (active : r.isActive = true)
    (differs : r.status ≠ s.due c r) :
    s.seatedRow c now r = { r with status := s.due c r, updatedAt := now } := by
  rw [seatedRow, if_pos ⟨place, active⟩, Registration.reseated, if_neg differs]

theorem seatedRow_status (place : r.classId = c.id) (active : r.isActive = true) :
    (s.seatedRow c now r).status = s.due c r := by
  unfold seatedRow
  rw [if_pos ⟨place, active⟩, r.reseated_status]

theorem mem_seated {r' : Registration} : r' ∈ (s.seated c now).registrations ↔
    ∃ r ∈ s.registrations, s.seatedRow c now r = r' :=
  List.mem_map

theorem registrationsOf_seated (s : Store) (c : Class) (now : Instant) (classId : Int) :
    (s.seated c now).registrationsOf classId =
      (s.registrationsOf classId).map (s.seatedRow c now) := by
  change (s.registrations.rows.map (s.seatedRow c now)).filter _ =
    (s.registrations.rows.filter _).map _
  rw [List.filter_map]
  congr 2
  funext r
  rw [Function.comp_apply, seatedRow_classId]

/-- **A rebalance changes no one's due status**, in its class or another. -/
theorem due_seated (s : Store) (c : Class) (now : Instant) (k : Class) (r : Registration) :
    (s.seated c now).due k (s.seatedRow c now r) = s.due k r := by
  -- a rank depends on places alone, and a rebalance changes only statuses
  have hrank : rank ((s.seated c now).registrationsOf k.id) (s.seatedRow c now r) =
      rank (s.registrationsOf k.id) r := by
    rw [registrationsOf_seated]
    exact rank_map (s.seatedRow_isActive c now) (s.seatedRow_samePlace c now) _ _
  unfold due Seating.due target
  rw [hrank, (s.seatedRow_samePlace c now r).anchored]

/-- Every number given to a registration has been given out. -/
def IsNumbered (s : Store) : Prop :=
  ∀ r ∈ s.registrations, r.id ≤ s.lastRegistrationId

instance (s : Store) : Decidable s.IsNumbered :=
  inferInstanceAs (Decidable (∀ r ∈ s.registrations.rows, r.id ≤ s.lastRegistrationId))

theorem IsNumbered.seated (h : s.IsNumbered) (c : Class) (now : Instant) :
    (s.seated c now).IsNumbered := by
  intro r' hr'
  obtain ⟨r, hr, rfl⟩ := mem_seated.1 hr'
  rw [seatedRow_id]
  exact h r hr

theorem IsNumbered.get?_next (h : s.IsNumbered) :
    s.registrations.get? (s.lastRegistrationId + 1) = none := by
  rw [Table.get?_eq_none_iff]
  intro r hr hid
  have hle := h r hr
  omega

end Store

/-- The registration with a number has a status. -/
def Store.Has (s : Store) (id : Int) (status : Status) : Prop :=
  ∃ r ∈ s.registrations, r.id = id ∧ r.status = status

theorem Store.Has.unique {s : Store} {id : Int} {a b : Status} (ha : s.Has id a)
    (hb : s.Has id b) : a = b := by
  obtain ⟨r, hr, hid, rfl⟩ := ha
  obtain ⟨q, hq, hid', rfl⟩ := hb
  rw [Table.eq_of_key_eq hr hq (hid.trans hid'.symm)]

/-- No registration came after `now`. -/
def Store.NoneAfter (s : Store) (now : Instant) : Prop :=
  ∀ r ∈ s.registrations, r.createdAt ≤ now

instance (s : Store) (now : Instant) : Decidable (s.NoneAfter now) :=
  inferInstanceAs (Decidable (∀ r ∈ s.registrations.rows, r.createdAt ≤ now))

/-- No registration for the class came after `now`. -/
def Store.NoneAfterIn (s : Store) (classId : Int) (now : Instant) : Prop :=
  ∀ r ∈ s.registrations, r.classId = classId → r.createdAt ≤ now

instance (s : Store) (classId : Int) (now : Instant) : Decidable (s.NoneAfterIn classId now) :=
  inferInstanceAs (Decidable (∀ r ∈ s.registrations.rows, _ → r.createdAt ≤ now))

theorem Store.NoneAfter.within {s : Store} {now : Instant} (h : s.NoneAfter now) (classId : Int) :
    s.NoneAfterIn classId now :=
  fun r hr _ => h r hr

/-- A registration that is stored now comes behind all that did not come later. -/
theorem Store.precedes_stored {s : Store} {now : Instant} (numbered : s.IsNumbered)
    (new : NewRegistration) {q : Registration} (hq : q ∈ s.registrations)
    (timely : q.createdAt ≤ now) :
    precedes q (new.stored (s.lastRegistrationId + 1) now) = true := by
  have hid : q.id < s.lastRegistrationId + 1 := by
    have := numbered q hq
    omega
  -- a new registration is not anchored, so the line decides only among those who are not
  cases hanchored : q.isAnchored with
  | true => exact precedes_of_anchored hanchored rfl
  | false =>
    have htime : q.createdAt.ticks ≤ now.ticks := timely
    rw [precedes_iff_inLine hanchored rfl (by change q.id ≠ s.lastRegistrationId + 1; omega),
      Registration.inLine_iff]
    change q.createdAt.ticks < now.ticks ∨
      (q.createdAt.ticks = now.ticks ∧ q.id ≤ s.lastRegistrationId + 1)
    omega

/-! ### The rows of a class -/

namespace Store

theorem filter_classId_cons {classId : Int} {x : Registration} (place : x.classId = classId)
    (l : List Registration) (k : Int) :
    (x :: l).filter (fun r => r.classId == k) =
      (if k = classId then [x] else []) ++ l.filter fun r => r.classId == k := by
  by_cases hk : k = classId
  · rw [List.filter_cons_of_pos (by simp [place, hk]), if_pos hk]
    rfl
  · rw [List.filter_cons_of_neg (by simp [place]; exact fun h => hk h.symm), if_neg hk]
    rfl

/-- A class is a registration of it and those that are left when it is removed. -/
theorem registrationsOf_erase {s : Store} {c : Class} {r : Registration}
    (found : s.registrations.get? r.id = some r) (place : r.classId = c.id) (k : Int) :
    (s.registrationsOf k).Perm ((if k = c.id then [r] else []) ++
      (s.registrations.erase r.id).rows.filter fun x => x.classId == k) := by
  rw [← filter_classId_cons place]
  exact (Table.rows_perm_erase found).filter _

/-- A class into which a row is put is that row and those of other numbers. -/
theorem filter_put {t : Table Registration Registration.id} {c : Class} {r : Registration}
    (place : r.classId = c.id) (k : Int) :
    ((t.put r).rows.filter fun x => x.classId == k).Perm ((if k = c.id then [r] else []) ++
      (t.erase r.id).rows.filter fun x => x.classId == k) := by
  rw [← filter_classId_cons place]
  exact (t.rows_put_perm r).filter _

end Store

/-! ### Edits -/

namespace Edit

/-- The registration of the class that an edit takes away. -/
def old : Edit → List Registration
  | nothing | insert _ | setCapacity _ => []
  | cancel r | checkIn r | delete r => [r]

/-- The registration of the class that an edit puts in its place. -/
def new (now : Instant) (s : Store) : Edit → List Registration
  | nothing | setCapacity _ | delete _ => []
  | insert new => [new.stored (s.lastRegistrationId + 1) now]
  | cancel r => [r.canceled now]
  | checkIn r => [r.checkedIn now]

/-- One that is stored now does not count for those who did not come later. -/
theorem rank_new_insert {s : Store} {now : Instant} (numbered : s.IsNumbered)
    (new : NewRegistration) {r : Registration} (hr : r ∈ s.registrations)
    (timely : r.createdAt ≤ now) : rank ((insert new).new now s) r = 0 := by
  have hlast := s.precedes_stored numbered new hr timely
  rw [Edit.new, rank_singleton, precedes_asymm hlast, Bool.and_false]
  rfl

/-- What is stored after an edit: what was before, but for what was taken away, and what was put
in. -/
theorem mem_apply {e : Edit} {c : Class} {s : Store} (fits : e.Fits c s) (now : Instant)
    (fresh : ∀ new, e = insert new → s.IsNumbered) {x : Registration} :
    x ∈ (e.apply c now s).registrations ↔
      (x ∈ s.registrations ∧ ∀ r ∈ e.old, x.id ≠ r.id) ∨ x ∈ e.new now s := by
  cases fits with
  | nothing => simp [apply, old, new]
  | setCapacity capacity => simp [apply, old, new]
  | cancel found place active =>
    rw [old, new, List.mem_singleton, List.forall_mem_singleton, or_comm]
    exact Table.mem_put
  | checkIn found place sits absent =>
    rw [old, new, List.mem_singleton, List.forall_mem_singleton, or_comm]
    exact Table.mem_put
  | delete found place =>
    rw [old, new, List.forall_mem_singleton, List.mem_nil_iff, or_false]
    exact Table.mem_erase
  | @insert row place status free =>
    have hput : x ∈ ((insert row).apply c now s).registrations ↔
        x = row.stored (s.lastRegistrationId + 1) now ∨
          (x ∈ s.registrations ∧ x.id ≠ s.lastRegistrationId + 1) := Table.mem_put
    -- nothing is overwritten, since no stored registration has the new number
    have hne : x ∈ s.registrations → x.id ≠ s.lastRegistrationId + 1 := by
      intro hx hid
      have := fresh row rfl x hx
      omega
    rw [hput, old, new, List.mem_singleton, or_comm]
    simp only [List.not_mem_nil, false_implies, implies_true, and_true]
    rw [and_iff_left_of_imp hne]

/-- What becomes of a stored registration by an edit and the rebalance after it. -/
inductive Becomes (c : Class) (now : Instant) (s : Store) (r : Registration) :
    Edit → Registration → Prop
  | canceled : Becomes c now s r (cancel r) (r.canceled now)
  | checkedIn : Becomes c now s r (checkIn r) (r.checkedIn now)
  | passedOver (q : Registration) : Becomes c now s r (checkIn q) r
  | reseated {e : Edit} (reseats : e.reseats = true) (stays : r ∈ (e.apply c now s).registrations) :
      Becomes c now s r e ((e.apply c now s).seatedRow (e.classAfter c now) now r)

/-- The only row that an edit puts in under the number of a stored one is that one, edited. -/
theorem of_mem_apply {e : Edit} {c : Class} {s : Store} (fits : e.Fits c s) {now : Instant}
    (fresh : ∀ new, e = insert new → s.IsNumbered) {r x : Registration}
    (hr : r ∈ s.registrations) (hx : x ∈ (e.apply c now s).registrations) (hid : x.id = r.id) :
    x = r ∨ (e = cancel r ∧ x = r.canceled now) ∨ (e = checkIn r ∧ x = r.checkedIn now) := by
  rcases (mem_apply fits now fresh).1 hx with ⟨hx, -⟩ | hx
  · exact .inl (Table.eq_of_key_eq hx hr hid)
  cases fits with
  | nothing | setCapacity | delete => exact absurd hx List.not_mem_nil
  | @insert new =>
    -- the number of the new row is greater than that of any other
    exfalso
    obtain rfl := List.mem_singleton.1 hx
    have hle := fresh new rfl r hr
    change s.lastRegistrationId + 1 = r.id at hid
    omega
  | cancel found =>
    obtain rfl := List.mem_singleton.1 hx
    obtain rfl := Table.eq_of_key_eq (Table.mem_of_get? found) hr hid
    exact .inr (.inl ⟨rfl, rfl⟩)
  | checkIn found =>
    obtain rfl := List.mem_singleton.1 hx
    obtain rfl := Table.eq_of_key_eq (Table.mem_of_get? found) hr hid
    exact .inr (.inr ⟨rfl, rfl⟩)

/-- What is stored under the number of a registration afterwards is what has become of it. -/
theorem becomes {e : Edit} {c : Class} {s : Store} (fits : e.Fits c s) {now : Instant}
    (fresh : ∀ new, e = insert new → s.IsNumbered) {r x : Registration}
    (hr : r ∈ s.registrations) (hx : x ∈ (e.result c now s).registrations) (hid : x.id = r.id) :
    Becomes c now s r e x := by
  unfold result at hx
  cases reseats : e.reseats with
  | true =>
    rw [if_pos reseats] at hx
    obtain ⟨y, hy, rfl⟩ := Store.mem_seated.1 hx
    rw [Store.seatedRow_id] at hid
    rcases of_mem_apply fits fresh hr hy hid with rfl | ⟨rfl, rfl⟩ | ⟨rfl, rfl⟩
    · exact .reseated reseats hy
    · -- a canceled registration is not active, so no rebalance touches it
      rw [Store.seatedRow_of_not_active rfl]
      exact .canceled
    · exact nomatch reseats
  | false =>
    rw [if_neg (ne_of_eq_of_ne reseats Bool.false_ne_true)] at hx
    cases e with
    | checkIn q =>
      rcases of_mem_apply fits fresh hr hx hid with rfl | ⟨he, -⟩ | ⟨he, rfl⟩
      · exact .passedOver q
      · exact nomatch he
      · rw [he]
        exact .checkedIn
    | nothing | insert | cancel | setCapacity | delete => exact nomatch reseats

/-- **An edit exchanges at most one registration** of its class and leaves the others alone. -/
theorem registrationsOf_apply {e : Edit} {c : Class} {s : Store} (fits : e.Fits c s)
    (fresh : ∀ new, e = insert new → s.IsNumbered) (now : Instant) (k : Int) :
    ∃ l, (s.registrationsOf k).Perm ((if k = c.id then e.old else []) ++ l) ∧
      ((e.apply c now s).registrationsOf k).Perm ((if k = c.id then e.new now s else []) ++ l) := by
  cases fits with
  | nothing | setCapacity =>
    refine ⟨s.registrationsOf k, ?_⟩
    simp only [old, new, ite_self]
    exact ⟨.refl _, .refl _⟩
  | @cancel r found place active =>
    exact ⟨_, Store.registrationsOf_erase found place k,
      Store.filter_put (r := r.canceled now) place k⟩
  | @checkIn r found place sits absent =>
    exact ⟨_, Store.registrationsOf_erase found place k,
      Store.filter_put (r := r.checkedIn now) place k⟩
  | @insert new place status free =>
    refine ⟨s.registrationsOf k, ?_, ?_⟩
    · simp only [old, ite_self]
      exact .refl _
    · -- there is no row with the new number to be removed
      have hput := Store.filter_put (t := s.registrations)
        (r := new.stored (s.lastRegistrationId + 1) now) place k
      have hfresh : s.registrations.erase (new.stored (s.lastRegistrationId + 1) now).id =
          s.registrations := Table.erase_of_get?_none (fresh new rfl).get?_next
      rw [hfresh] at hput
      exact hput
  | @delete r found place =>
    refine ⟨_, Store.registrationsOf_erase found place k, ?_⟩
    simp only [Edit.new, ite_self]
    exact .refl _

theorem lastRegistrationId_le_apply (e : Edit) (c : Class) (now : Instant) (s : Store) :
    s.lastRegistrationId ≤ (e.apply c now s).lastRegistrationId := by
  cases e with
  | insert new =>
    change s.lastRegistrationId ≤ s.lastRegistrationId + 1
    omega
  | nothing | cancel | setCapacity | checkIn | delete => exact Int.le_refl _

/-- A rebalance gives out no number. -/
theorem lastRegistrationId_result (e : Edit) (c : Class) (now : Instant) (s : Store) :
    (e.result c now s).lastRegistrationId = (e.apply c now s).lastRegistrationId := by
  unfold result
  split <;> rfl

theorem lastRegistrationId_le_result (e : Edit) (c : Class) (now : Instant) (s : Store) :
    s.lastRegistrationId ≤ (e.result c now s).lastRegistrationId := by
  rw [lastRegistrationId_result]
  exact lastRegistrationId_le_apply e c now s

theorem isNumbered_apply {e : Edit} {c : Class} {s : Store} (fits : e.Fits c s)
    (numbered : s.IsNumbered) (now : Instant) : (e.apply c now s).IsNumbered := by
  intro x hx
  have hle := lastRegistrationId_le_apply e c now s
  rcases (mem_apply fits now fun _ _ => numbered).1 hx with ⟨hx, -⟩ | hx
  · exact Int.le_trans (numbered x hx) hle
  cases fits with
  | nothing | setCapacity | delete => exact absurd hx List.not_mem_nil
  | insert =>
    obtain rfl := List.mem_singleton.1 hx
    exact Int.le_refl _
  | @cancel r found =>
    obtain rfl := List.mem_singleton.1 hx
    exact Int.le_trans (numbered r (Table.mem_of_get? found)) hle
  | @checkIn r found =>
    obtain rfl := List.mem_singleton.1 hx
    exact Int.le_trans (numbered r (Table.mem_of_get? found)) hle

theorem isNumbered_result {e : Edit} {c : Class} {s : Store} (fits : e.Fits c s)
    (numbered : s.IsNumbered) (now : Instant) : (e.result c now s).IsNumbered := by
  unfold result
  split
  · exact (isNumbered_apply fits numbered now).seated _ now
  · exact isNumbered_apply fits numbered now

section Rank

variable {e : Edit} {c : Class} {s : Store} (fits : e.Fits c s)
  (fresh : ∀ new, e = insert new → s.IsNumbered) (now : Instant)

include fits fresh

/-- Ranks in the class of an edit differ by the registration that was exchanged. -/
theorem rank_apply (r : Registration) :
    rank ((e.apply c now s).registrationsOf c.id) r + rank e.old r =
      rank (s.registrationsOf c.id) r + rank (e.new now s) r := by
  obtain ⟨l, hbefore, hafter⟩ := registrationsOf_apply fits fresh now c.id
  rw [if_pos rfl] at hbefore hafter
  rw [rank_perm hbefore, rank_perm hafter, rank_append, rank_append]
  omega

/-- The registrations of another class stay. -/
theorem registrationsOf_apply_of_ne {k : Int} (hk : k ≠ c.id) :
    ((e.apply c now s).registrationsOf k).Perm (s.registrationsOf k) := by
  obtain ⟨l, hbefore, hafter⟩ := registrationsOf_apply fits fresh now k
  rw [if_neg hk] at hbefore hafter
  exact hafter.trans hbefore.symm

end Rank

end Edit

end EnrollmentDesk
