import EnrollmentDesk.Proofs.Seating
import EnrollmentDesk.Proofs.Session

/-!
# What a rebalance does

A rebalance writes the changes of a plan one after the other. Together they are one change of the
table (`Store.seated`): every active registration of the class gets the status due to it in the
store that the plan was made from, and no other row is touched. Whoever waited and is due a seat is
promoted (`Store.promoted`).

`Tx.runOn_rebalance` says this of the step, with the writes it pays for; if the budget does not
cover them all, the step fails (`Tx.runOn_rebalance_of_not_affords`).
-/

namespace EnrollmentDesk

/-- The registration with a status, as it is if it has it. -/
def Registration.reseated (r : Registration) (status : Status) (now : Instant) : Registration :=
  if r.status = status then r else { r with status, updatedAt := now }

namespace Registration

variable (r : Registration) (status : Status) (now : Instant)

@[simp] theorem reseated_id : (r.reseated status now).id = r.id := by
  unfold reseated; split <;> rfl

@[simp] theorem reseated_classId : (r.reseated status now).classId = r.classId := by
  unfold reseated; split <;> rfl

@[simp] theorem reseated_createdAt : (r.reseated status now).createdAt = r.createdAt := by
  unfold reseated; split <;> rfl

@[simp] theorem reseated_checkInAt : (r.reseated status now).checkInAt = r.checkInAt := by
  unfold reseated; split <;> rfl

@[simp] theorem reseated_status : (r.reseated status now).status = status := by
  unfold reseated
  split
  · next h => exact h
  · rfl

theorem reseated_of_status_eq {r : Registration} {status : Status} (h : r.status = status)
    (now : Instant) : r.reseated status now = r := by
  unfold reseated
  rw [if_pos h]

end Registration

namespace Store

/-- The status due to an active registration of a class. -/
def due (s : Store) (c : Class) (r : Registration) : Status :=
  Seating.due c.capacity (s.registrationsOf c.id) r

/-- The seating of a class as it is due. -/
def plan (s : Store) (c : Class) : Plan :=
  Seating.plan c.capacity (s.registrationsOf c.id)

/-- A row once everyone in a class has been given the status due. -/
def seatedRow (s : Store) (c : Class) (now : Instant) (r : Registration) : Registration :=
  if r.classId = c.id ∧ r.isActive = true then r.reseated (s.due c r) now else r

theorem seatedRow_id (s : Store) (c : Class) (now : Instant) (r : Registration) :
    (s.seatedRow c now r).id = r.id := by
  unfold seatedRow
  split
  · exact r.reseated_id _ _
  · rfl

/-- The store once everyone in a class has been given the status due. -/
def seated (s : Store) (c : Class) (now : Instant) : Store :=
  s.withRegistrations (s.registrations.mapRows (s.seatedRow c now) (s.seatedRow_id c now))

theorem get?_seated (s : Store) (c : Class) (now : Instant) (id : Int) :
    (s.seated c now).registrations.get? id =
      (s.registrations.get? id).map (s.seatedRow c now) := by
  unfold seated withRegistrations
  rw [Table.get?_mapRows]

/-- The registrations of a class that wait and are due a seat, as they are with one. -/
def promoted (s : Store) (c : Class) : List Registration :=
  ((Seating.order (s.registrationsOf c.id)).filter fun r =>
    r.status = .waitlisted ∧ s.due c r = .confirmed).map fun r => { r with status := .confirmed }

/-! ### The registrations of a class -/

variable {s : Store} {c : Class} {classId : Int} {r : Registration}

theorem mem_registrationsOf :
    r ∈ s.registrationsOf classId ↔ r ∈ s.registrations ∧ r.classId = classId := by
  unfold registrationsOf
  rw [List.mem_filter, Table.mem_iff, beq_iff_eq]

theorem nodup_registrationsOf (s : Store) (classId : Int) :
    ((s.registrationsOf classId).map Registration.id).Nodup :=
  (List.filter_sublist.map _).nodup s.registrations.nodup_keys

theorem mem_activeOf :
    r ∈ s.activeOf classId ↔
      r ∈ s.registrations ∧ r.classId = classId ∧ r.isActive = true := by
  unfold activeOf
  rw [mem_sortBy, List.mem_filter, Table.mem_iff, Bool.and_eq_true, beq_iff_eq]

theorem activeOf_perm (s : Store) (classId : Int) :
    (s.activeOf classId).Perm ((s.registrationsOf classId).filter Registration.isActive) := by
  unfold activeOf registrationsOf
  rw [List.filter_filter]
  refine (sortBy_perm _ _).trans (List.Perm.of_eq (List.filter_congr fun r _ => ?_))
  rw [Bool.and_comm]

/-- A rebalance plans from the active registrations alone, to the same effect. -/
theorem plan_activeOf (s : Store) (c : Class) :
    Seating.plan c.capacity (s.activeOf c.id) = s.plan c := by
  have hactive : (s.activeOf c.id).filter Registration.isActive = s.activeOf c.id := by
    rw [List.filter_eq_self]
    exact fun r hr => (mem_activeOf.1 hr).2.2
  -- the planner leaves out those who are not active, and sorts the others again
  have horder : Seating.order (s.activeOf c.id) = Seating.order (s.registrationsOf c.id) := by
    refine Seating.order_eq_of_perm (s.nodup_registrationsOf c.id) ?_
    rw [hactive]
    exact s.activeOf_perm c.id
  unfold plan Seating.plan
  rw [horder]

theorem plan_changes (s : Store) (c : Class) :
    (s.plan c).changes =
      Seating.changesTo (s.due c) (Seating.order (s.registrationsOf c.id)) :=
  Seating.plan_changes c.capacity (s.nodup_registrationsOf c.id)

end Store

/-! ### Writing the changes -/

namespace Tx

open Seating

/-- The table once some of its rows have been given a status each. -/
def reseatedRows (t : Table Registration Registration.id) (l : List Registration)
    (status : Registration → Status) (now : Instant) : Table Registration Registration.id :=
  t.mapRows (fun r => if r ∈ l then r.reseated (status r) now else r) fun r => by
    split
    · exact r.reseated_id _ _
    · rfl

variable {active l : List Registration} {status : Registration → Status} {s : Session}

/-- Giving statuses to some rows is giving one to the first, and then to the others. -/
theorem reseatedRows_cons {t : Table Registration Registration.id} {r : Registration}
    (distinct : ((r :: l).map Registration.id).Nodup) (hr : t.get? r.id = some r) (now : Instant) :
    reseatedRows t (r :: l) status now =
      reseatedRows (t.put (r.reseated (status r) now)) l status now := by
  obtain ⟨hfirst, -⟩ := List.nodup_cons.1 (List.map_cons ▸ distinct)
  -- no later row has the number of the first, so its status is not given again
  have out : ∀ x : Registration, x.id = r.id → x ∉ l :=
    fun x hid hx => hfirst (hid ▸ List.mem_map_of_mem hx)
  ext k : 1
  unfold reseatedRows
  rw [Table.get?_mapRows, Table.get?_mapRows, Table.get?_put, r.reseated_id]
  by_cases hk : k = r.id
  · rw [if_pos hk, hk, hr, Option.map_some, Option.map_some, if_pos List.mem_cons_self,
      if_neg (out _ (r.reseated_id _ _))]
  · rw [if_neg hk]
    cases hx : t.get? k with
    | none => rfl
    | some x =>
      have hne : x ≠ r := by
        rintro rfl
        exact hk (Table.key_of_get? hx).symm
      simp only [Option.map_some, List.mem_cons, hne, false_or]

theorem reseatedRows_nil (t : Table Registration Registration.id)
    (status : Registration → Status) (now : Instant) : reseatedRows t [] status now = t := by
  ext k : 1
  unfold reseatedRows
  rw [Table.get?_mapRows]
  cases t.get? k <;> rfl

/-- One change is one write. -/
theorem runOn_setStatus {r : Registration} (h : s.store.Affords 1)
    (hr : s.store.registrations.get? r.id = some r) (status : Status) :
    runOn (setStatus r.id status) s = (.ok ⟨⟩, { s with
      store := (s.store.withRegistrations
        (s.store.registrations.put { r with status, updatedAt := s.now })).spend 1 }) := by
  unfold setStatus
  rw [runOn_bind_ok (runOn_now s)]
  exact runOn_changeRegistration h _ hr

/-- **Writing changes.** The changes that give statuses to rows of the table, one after the other,
if the budget covers them all. -/
theorem runOn_applyChanges (distinct : (l.map Registration.id).Nodup)
    (present : ∀ r ∈ l, s.store.registrations.get? r.id = some r)
    (affords : s.store.Affords (changesTo status l).length) :
    runOn (applyChanges active (changesTo status l)) s =
      (.ok ((changesTo status l).flatMap fun c => (promoted? active c).toList),
        { s with
          store := (s.store.withRegistrations
            (reseatedRows s.store.registrations l status s.now)).spend
              (changesTo status l).length }) := by
  induction l generalizing s with
  | nil =>
    rw [reseatedRows_nil]
    change (_, s) = (_, { s with store := s.store.spend 0 })
    rw [s.store.spend_zero]
    rfl
  | cons r l ih =>
    obtain ⟨hfirst, hrest⟩ := List.nodup_cons.1 (List.map_cons ▸ distinct)
    have hr := present r List.mem_cons_self
    rw [reseatedRows_cons distinct hr]
    by_cases hs : r.status = status r
    · -- nothing is written for `r`
      rw [changesTo_cons_of_eq hs] at affords ⊢
      rw [Registration.reseated_of_status_eq hs, Table.put_eq_self hr]
      exact ih hrest (fun q hq => present q (List.mem_cons_of_mem r hq)) affords
    · -- one write for `r`, and then those for the rest
      have hrow : r.reseated (status r) s.now =
          { r with status := status r, updatedAt := s.now } := by
        rw [Registration.reseated, if_neg hs]
      rw [changesTo_cons_of_ne hs] at affords ⊢
      rw [List.length_cons, Nat.add_comm, Store.affords_add] at affords
      -- the rest finds its rows where they were
      have present' : ∀ q ∈ l,
          (s.store.registrations.put (r.reseated (status r) s.now)).get? q.id = some q := by
        intro q hq
        rw [Table.get?_put, r.reseated_id, if_neg]
        · exact present q (List.mem_cons_of_mem r hq)
        · exact fun hid => hfirst (hid ▸ List.mem_map_of_mem hq)
      have hwrite := runOn_setStatus affords.1 hr (status r)
      rw [← hrow] at hwrite
      rw [applyChanges, runOn_bind_ok hwrite, runOn_bind_ok (ih hrest present' affords.2),
        runOn_pure, List.length_cons, Nat.add_comm, ← Store.spend_spend]
      rfl

/-- Changes that the budget does not cover fail at the first that cannot be paid for. -/
theorem runOn_applyChanges_of_not_affords {cs : List Change}
    (present : ∀ c ∈ cs, ∃ r, s.store.registrations.get? c.registrationId = some r)
    (h : ¬ s.store.Affords cs.length) :
    ∃ store, runOn (applyChanges active cs) s =
      (.error (.storage .budgetExhausted), { s with store := store }) := by
  induction cs generalizing s with
  | nil => exact absurd (s.store.affords_zero) h
  | cons c cs ih =>
    rw [applyChanges]
    by_cases h1 : s.store.Affords 1
    · obtain ⟨r, hr⟩ := present c List.mem_cons_self
      have hid : r.id = c.registrationId := Table.key_of_get? hr
      rw [← hid, runOn_bind_ok (runOn_setStatus h1 (hid ▸ hr) c.new)]
      let rows := s.store.registrations.put { r with status := c.new, updatedAt := s.now }
      have present' : ∀ c' ∈ cs, ∃ q, rows.get? c'.registrationId = some q := by
        intro c' hc'
        rw [Table.get?_put]
        split
        · exact ⟨_, rfl⟩
        · exact present c' (List.mem_cons_of_mem c hc')
      -- the budget covers this write, so it does not cover the others
      have short : ¬ (s.store.spend 1).Affords cs.length := by
        intro h'
        refine h ?_
        rw [List.length_cons, Nat.add_comm, Store.affords_add]
        exact ⟨h1, h'⟩
      obtain ⟨t, ht⟩ := ih (s := { s with
        store := (s.store.withRegistrations rows).spend 1 }) present' short
      exact ⟨t, runOn_bind_error ht⟩
    · unfold setStatus
      rw [bind_assoc, runOn_bind_ok (runOn_now s)]
      exact ⟨s.store, runOn_bind_error (runOn_changeRegistration_of_not_affords h1 _ _)⟩

/-- Promoted by changes are those who wait and are given a seat. -/
theorem flatMap_promoted? (distinct : (active.map Registration.id).Nodup)
    (sub : ∀ r ∈ l, r ∈ active) :
    ((changesTo status l).flatMap fun c => (promoted? active c).toList) =
      (l.filter fun r => r.status = .waitlisted ∧ status r = .confirmed).map fun r =>
        { r with status := .confirmed } := by
  induction l with
  | nil => rfl
  | cons r l ih =>
    have ih := ih fun q hq => sub q (List.mem_cons_of_mem r hq)
    by_cases hs : r.status = status r
    · have hno : ¬ (r.status = .waitlisted ∧ status r = .confirmed) := by
        rintro ⟨hw, hc⟩
        rw [hs, hc] at hw
        exact nomatch hw
      rw [changesTo_cons_of_eq hs, ih, List.filter_cons_of_neg (by simpa using hno)]
    · -- the change names `r` by its number, and only `r` has it
      have hfind : (active.find? fun x => x.id == r.id) = some r :=
        (find?_key_eq_some_iff distinct).2 ⟨sub r List.mem_cons_self, rfl⟩
      rw [changesTo_cons_of_ne hs, List.flatMap_cons, ih]
      by_cases hp : r.status = .waitlisted ∧ status r = .confirmed
      · have hc : (⟨r.id, r.status, status r⟩ : Change).isPromotion = true := by
          unfold Change.isPromotion
          rw [hp.1, hp.2]
          rfl
        rw [promoted?, if_pos hc, hfind, List.filter_cons_of_pos (by simpa using hp), hp.2]
        rfl
      · have hc : ¬ (⟨r.id, r.status, status r⟩ : Change).isPromotion = true := by
          unfold Change.isPromotion
          simpa using hp
        rw [promoted?, if_neg hc, List.filter_cons_of_neg (by simpa using hp)]
        rfl

section Rebalance

variable {c : Class}

theorem mem_order_registrationsOf {s : Store} {r : Registration} :
    r ∈ order (s.registrationsOf c.id) ↔
      r ∈ s.registrations ∧ r.classId = c.id ∧ r.isActive = true := by
  rw [mem_order, Store.mem_registrationsOf, and_assoc]

theorem nodup_order_registrationsOf (s : Store) (c : Class) :
    ((order (s.registrationsOf c.id)).map Registration.id).Nodup := by
  have hperm : (order (s.registrationsOf c.id)).Perm
      ((s.registrationsOf c.id).filter Registration.isActive) := sortBy_perm _ _
  rw [(hperm.map _).nodup_iff]
  exact (List.filter_sublist.map _).nodup (s.nodup_registrationsOf c.id)

/-- The rows that the changes of a plan touch are those whose status is not the one due. -/
theorem reseatedRows_order (s : Store) (c : Class) (now : Instant) :
    s.withRegistrations
      (reseatedRows s.registrations (order (s.registrationsOf c.id)) (s.due c) now) =
        s.seated c now := by
  unfold Store.seated
  congr 1
  ext k : 1
  unfold reseatedRows
  rw [Table.get?_mapRows, Table.get?_mapRows]
  cases hr : s.registrations.get? k with
  | none => rfl
  | some r =>
    have hmem : r ∈ order (s.registrationsOf c.id) ↔ r.classId = c.id ∧ r.isActive = true := by
      rw [mem_order_registrationsOf]
      exact and_iff_right (Table.mem_of_get? hr)
    simp only [Option.map_some, Store.seatedRow, hmem]

/-- **A rebalance** of a class that is there gives everyone the status due, if the budget covers the
changes. -/
theorem runOn_rebalance {s : Session} (alone : s.rival = none)
    (hc : s.store.classes.get? c.id = some c)
    (affords : s.store.Affords (s.store.plan c).changes.length) :
    runOn (rebalance c.id) s = (.ok (s.store.promoted c),
      { s with store := (s.store.seated c s.now).spend (s.store.plan c).changes.length }) := by
  have hlock : runOn (lockClass c.id) s = (.ok c, s) := by rw [runOn_lockClass alone, hc]
  have distinct := nodup_order_registrationsOf s.store c
  have present : ∀ r ∈ order (s.store.registrationsOf c.id),
      s.store.registrations.get? r.id = some r :=
    fun r hr => Table.get?_of_mem (mem_order_registrationsOf.1 hr).1
  have sub : ∀ r ∈ order (s.store.registrationsOf c.id), r ∈ s.store.activeOf c.id :=
    fun r hr => Store.mem_activeOf.2 (mem_order_registrationsOf.1 hr)
  -- the copies to be announced are looked up among the active registrations
  have apart : ((s.store.activeOf c.id).map Registration.id).Nodup := by
    rw [((s.store.activeOf_perm c.id).map _).nodup_iff]
    exact (List.filter_sublist.map _).nodup (s.store.nodup_registrationsOf c.id)
  rw [s.store.plan_changes c] at affords ⊢
  unfold rebalance
  rw [runOn_bind_ok hlock, runOn_bind_ok (runOn_ask _ s), s.store.plan_activeOf c,
    s.store.plan_changes c, runOn_applyChanges distinct present affords,
    flatMap_promoted? apart sub, reseatedRows_order]
  rfl

/-- A rebalance with more changes than the budget covers fails. -/
theorem runOn_rebalance_of_not_affords {s : Session} (alone : s.rival = none)
    (hc : s.store.classes.get? c.id = some c)
    (h : ¬ s.store.Affords (s.store.plan c).changes.length) :
    ∃ store, runOn (rebalance c.id) s =
      (.error (.storage .budgetExhausted), { s with store := store }) := by
  have hlock : runOn (lockClass c.id) s = (.ok c, s) := by rw [runOn_lockClass alone, hc]
  unfold rebalance
  rw [runOn_bind_ok hlock, runOn_bind_ok (runOn_ask _ s), s.store.plan_activeOf c]
  refine runOn_applyChanges_of_not_affords (fun x hx => ?_) h
  rw [s.store.plan_changes c] at hx
  obtain ⟨r, hr, -, rfl⟩ := mem_changesTo.1 hx
  exact ⟨r, Table.get?_of_mem (mem_order_registrationsOf.1 hr).1⟩

end Rebalance

end Tx

end EnrollmentDesk
