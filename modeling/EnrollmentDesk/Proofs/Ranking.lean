import EnrollmentDesk.Proofs.FreedSeat
import EnrollmentDesk.Proofs.Identity
import EnrollmentDesk.Proofs.IssuedCode
import EnrollmentDesk.Proofs.Removal

/-!
# The places on a waitlist are a ranking

A family asks with its code, and is told its place on the waitlist of its class. The places told to
the families of a class are the numbers from one on, as many as wait, each told to one of them, and
who came earlier has the smaller one.

Nothing stores a place. It is found anew each time, as an index in the list of those who wait, so it
is the list that has to be known: along it the numbers of those ahead are counted up from zero
(`Seating.map_countP_isAhead`).

When somebody leaves the waitlist of a balanced class, no seat is freed by it, and so nobody else is
touched. The list is the same without them (`Store.HasLeft.waitlist_perm`), and the places of those
behind become smaller by one.
-/

namespace EnrollmentDesk

open Seating

/-! ### Along the waitlist -/

theorem Registration.IsAhead.trans {p q r : Registration} (hpq : p.IsAhead q) (hqr : q.IsAhead r) :
    p.IsAhead r := by
  rw [isAhead_iff] at *
  omega

theorem Registration.IsAhead.of_id_ne {q r : Registration} (h : ¬ q.IsAhead r)
    (hid : q.id ≠ r.id) : r.IsAhead q := by
  rw [isAhead_iff] at *
  omega

/-- Along a list that is in line, the numbers of those ahead are counted up from zero. -/
theorem Seating.map_countP_isAhead {l : List Registration}
    (sorted : l.Pairwise Registration.IsAhead) :
    (l.map fun r => l.countP fun q => q.IsAhead r) = List.range l.length := by
  induction l with
  | nil => rfl
  | cons a l ih =>
    obtain ⟨first, rest⟩ := List.pairwise_cons.1 sorted
    -- nobody is ahead of the first, who is one more ahead of everyone else
    have none_ahead : ((a :: l).countP fun q => q.IsAhead a) = 0 := by
      rw [List.countP_eq_zero]
      intro q hq
      rw [decide_eq_true_iff]
      rcases List.mem_cons.1 hq with rfl | hq
      · exact Registration.IsAhead.irrefl q
      · exact (first q hq).asymm
    have one_more : ∀ r ∈ l, ((a :: l).countP fun q => q.IsAhead r) =
        (l.countP fun q => q.IsAhead r) + 1 := by
      intro r hr
      exact List.countP_cons_of_pos (decide_eq_true (first r hr))
    calc ((a :: l).map fun r => (a :: l).countP fun q => q.IsAhead r)
      _ = 0 :: l.map fun r => (l.countP fun q => q.IsAhead r) + 1 := by
        rw [List.map_cons, none_ahead, List.map_congr_left one_more]
      _ = 0 :: (List.range l.length).map (· + 1) := by
        rw [← ih rest, List.map_map]
        rfl
      _ = List.range (a :: l).length := by
        rw [List.length_cons, List.range_succ_eq_map]

namespace Store

variable {s : Store} {classId : Int} {q r : Registration}

/-- **The places on a waitlist** are counted up from one. -/
theorem map_position?_waitlist (s : Store) (classId : Int) :
    (s.waitlist classId).map s.position? =
      (List.range (s.waitlist classId).length).map fun i => some (i + 1) := by
  have place : ∀ r ∈ s.waitlist classId,
      s.position? r = some (((s.waitlist classId).countP fun q => q.IsAhead r) + 1) := by
    intro r hr
    obtain ⟨stored, rfl, waits⟩ := mem_waitlist.1 hr
    rw [position?_eq stored waits, countP_waitlist]
  rw [List.map_congr_left place, ← map_countP_isAhead (s.pairwise_waitlist classId), List.map_map]
  rfl

/-- As many places are given as there are people who wait. -/
theorem exists_position?_iff {k : Nat} :
    (∃ r ∈ s.registrations, r.classId = classId ∧ s.position? r = some k) ↔
      1 ≤ k ∧ k ≤ (s.registrationsOf classId).countP fun r => r.status = .waitlisted := by
  have given : (∃ r ∈ s.registrations, r.classId = classId ∧ s.position? r = some k) ↔
      some k ∈ (s.waitlist classId).map s.position? := by
    rw [List.mem_map]
    constructor
    · rintro ⟨r, hr, place, h⟩
      exact ⟨r, mem_waitlist.2 ⟨hr, place, waits_of_position? h⟩, h⟩
    · rintro ⟨r, hr, h⟩
      obtain ⟨hr, place, -⟩ := mem_waitlist.1 hr
      exact ⟨r, hr, place, h⟩
  rw [given, map_position?_waitlist, length_waitlist, List.mem_map]
  constructor
  · rintro ⟨i, hi, h⟩
    have hi := List.mem_range.1 hi
    have hk := Option.some.inj h
    omega
  · rintro ⟨one_le, le⟩
    refine ⟨k - 1, List.mem_range.2 (by omega), congrArg some ?_⟩
    omega

/-- Who is ahead of another has fewer ahead. -/
theorem waitingAhead_lt (hq : q ∈ s.registrationsOf classId) (waits : q.status = .waitlisted)
    (ahead : q.IsAhead r) :
    waitingAhead (s.registrationsOf classId) q < waitingAhead (s.registrationsOf classId) r := by
  refine countP_lt_countP hq ?_ (decide_eq_true ⟨waits, ahead⟩) fun p _ hp => ?_
  · rw [decide_eq_false_iff_not]
    exact fun h => h.2.asymm h.2
  · rw [decide_eq_true_iff] at hp ⊢
    exact ⟨hp.1, hp.2.trans ahead⟩

/-- **Who came earlier has the smaller place.** -/
theorem position?_lt_iff {k l : Nat} (hq : q ∈ s.registrations) (hr : r ∈ s.registrations)
    (same : q.classId = r.classId) (hk : s.position? q = some k) (hl : s.position? r = some l) :
    k < l ↔ q.IsAhead r := by
  have qwaits := waits_of_position? hk
  have rwaits := waits_of_position? hl
  have hqs := mem_registrationsOf.2 ⟨hq, same⟩
  have hrs := mem_registrationsOf.2 ⟨hr, rfl⟩
  rw [position?_eq hq qwaits, same] at hk
  rw [position?_eq hr rwaits] at hl
  obtain rfl := Option.some.inj hk
  obtain rfl := Option.some.inj hl
  rw [Nat.add_lt_add_iff_right]
  constructor
  · intro hlt
    by_contra behind
    have hid : q.id ≠ r.id := by
      intro hid
      rw [Table.eq_of_key_eq hq hr hid] at hlt
      omega
    have hgt := waitingAhead_lt hrs rwaits (Registration.IsAhead.of_id_ne behind hid)
    omega
  · exact waitingAhead_lt hqs qwaits

/-- Nobody shares a place. -/
theorem eq_of_position? {k : Nat} (hq : q ∈ s.registrations) (hr : r ∈ s.registrations)
    (same : q.classId = r.classId) (hqk : s.position? q = some k) (hrk : s.position? r = some k) :
    q = r := by
  by_contra hne
  have hid : q.id ≠ r.id := fun hid => hne (Table.eq_of_key_eq hq hr hid)
  -- one of them is ahead of the other, and would have the smaller place
  by_cases ahead : q.IsAhead r
  · exact Nat.lt_irrefl k ((position?_lt_iff hq hr same hqk hrk).2 ahead)
  · have behind := Registration.IsAhead.of_id_ne ahead hid
    exact Nat.lt_irrefl k ((position?_lt_iff hr hq same.symm hrk hqk).2 behind)

/-! ### Leaving the waitlist -/

/-- A registration has left the waitlist, and no other has been touched. -/
structure HasLeft (t s : Store) (r : Registration) : Prop where
  others : ∀ id, id ≠ r.id → t.registrations.get? id = s.registrations.get? id
  gone : ∀ x, t.registrations.get? r.id = some x → x.status ≠ .waitlisted

namespace HasLeft

variable {t : Store} (h : t.HasLeft s r)

include h

theorem mem_iff {x : Registration} (hid : x.id ≠ r.id) :
    x ∈ t.registrations ↔ x ∈ s.registrations := by
  constructor
  · intro hx
    exact Table.mem_of_get? ((h.others _ hid).symm.trans (Table.get?_of_mem hx))
  · intro hx
    exact Table.mem_of_get? ((h.others _ hid).trans (Table.get?_of_mem hx))

theorem mem_waitlist_iff {x : Registration} :
    x ∈ t.waitlist classId ↔ x ∈ s.waitlist classId ∧ x.id ≠ r.id := by
  rw [mem_waitlist, mem_waitlist]
  constructor
  · rintro ⟨hx, place, xwaits⟩
    have hid : x.id ≠ r.id := fun hid => h.gone x (hid ▸ Table.get?_of_mem hx) xwaits
    exact ⟨⟨(h.mem_iff hid).1 hx, place, xwaits⟩, hid⟩
  · rintro ⟨⟨hx, place, xwaits⟩, hid⟩
    exact ⟨(h.mem_iff hid).2 hx, place, xwaits⟩

variable (hr : r ∈ s.registrations) (waits : r.status = .waitlisted)

include hr waits

/-- **Without somebody who has left**, and with nobody else touched, the waitlist is the same. -/
theorem waitlist_perm : (s.waitlist r.classId).Perm (r :: t.waitlist r.classId) := by
  have listed : r ∈ s.waitlist r.classId := mem_waitlist.2 ⟨hr, rfl, waits⟩
  have apart : r ∉ t.waitlist r.classId := fun hr => (h.mem_waitlist_iff.1 hr).2 rfl
  refine (List.perm_ext_iff_of_nodup (.of_map _ (s.nodup_waitlist _))
    (List.nodup_cons.2 ⟨apart, .of_map _ (t.nodup_waitlist _)⟩)).2 fun x => ?_
  rw [List.mem_cons, h.mem_waitlist_iff]
  constructor
  · intro hx
    by_cases hid : x.id = r.id
    · exact .inl (Table.eq_of_key_eq (mem_waitlist.1 hx).1 hr hid)
    · exact .inr ⟨hx, hid⟩
  · rintro (rfl | ⟨hx, -⟩)
    · exact listed
    · exact hx

/-- Those behind who has left have one less ahead. -/
theorem waitingAhead_add (q : Registration) :
    waitingAhead (t.registrationsOf r.classId) q + (if r.IsAhead q then 1 else 0) =
      waitingAhead (s.registrationsOf r.classId) q := by
  rw [← countP_waitlist, ← countP_waitlist,
    (h.waitlist_perm hr waits).countP_eq, List.countP_cons]
  simp only [decide_eq_true_eq]

/-- **Those behind who has left move up by one place**, and those ahead keep theirs. -/
theorem position?_eq (hq : q ∈ s.registrations) (same : q.classId = r.classId)
    (hne : q.id ≠ r.id) {k : Nat} (hk : s.position? q = some k) :
    t.position? q = some (if r.IsAhead q then k - 1 else k) := by
  have qwaits := waits_of_position? hk
  have hcount := h.waitingAhead_add hr waits q
  rw [Store.position?_eq hq qwaits, same] at hk
  rw [Store.position?_eq ((h.mem_iff hne).2 hq) qwaits, same, ← Option.some.inj hk]
  congr 1
  split at hcount
  · next behind =>
    rw [if_pos behind]
    omega
  · next ahead =>
    rw [if_neg ahead]
    omega

end HasLeft

end Store

namespace Edit

variable {c : Class} {s : Store} {r : Registration} (fits : (cancel r).Fits c s)
  (balanced : s.IsBalancedAt c) (waits : r.status = .waitlisted) (now : Instant)

include fits balanced waits

/-- **Who waits takes no seat away from anybody** and gives none free, so to cancel them touches
nobody else. -/
theorem hasLeft_cancel : ((cancel r).result c now s).HasLeft s r where
  others id hid := by
    refine get?_result_cancel_of_ne fits now balanced hid fun _ _ _ _ freed => ?_
    exact nomatch waits.symm.trans freed.1.1
  gone x hx := by
    rw [get?_result rfl, get?_apply_cancel, if_pos rfl, Option.map_some,
      Store.seatedRow_of_not_active rfl] at hx
    rw [← Option.some.inj hx]
    exact nofun

theorem hasLeft_delete : ((delete r).result c now s).HasLeft s r where
  others id hid := by
    have place := (found_of_cancel fits).2.1
    rw [get?_result_delete_of_ne place now hid]
    exact (hasLeft_cancel fits balanced waits now).others id hid
  gone x hx := by
    rw [get?_result_delete] at hx
    exact nomatch hx

end Edit

/-! ### What families are told -/

/-- A family that asks with the code of a registration is told of it, and its place. -/
def Desk.Tells (office : Office) (d : Desk) (r : Registration) (place : Option Nat) : Prop :=
  (runOn (Service.status office r.code) d).1 = .ok ⟨r, place⟩

namespace Desk

variable {office : Office} {d t : Desk} {q r : Registration}

/-- The place told is the one found in the store. -/
theorem tells_iff (online : d.online = true) (distinct : d.store.HasDistinctCodes)
    (hr : r ∈ d.store.registrations) (trimmed : Text.trim r.code = r.code) {place : Option Nat} :
    d.Tells office r place ↔ d.store.position? r = place := by
  have found : d.store.registrationByCode (Text.trim r.code) = some r := by
    rw [trimmed]
    exact Store.registrationByCode_of_unique hr fun q hq same => distinct q hq r hr same
  unfold Tells
  rw [Service.status_of_found office online found, Except.ok.injEq, Placement.mk.injEq,
    and_iff_right rfl]

end Desk

/-- At the desk a registration has left the waitlist, and families can ask as before. -/
structure Desk.HasLeft (t d : Desk) (r : Registration) : Prop where
  online : t.online = true
  distinct : t.store.HasDistinctCodes
  store : t.store.HasLeft d.store r

section Leave

variable {office : Office} {d : Desk} (alone : d.rival = none) {r : Registration} {c : Class}
  (hr : r ∈ d.store.registrations) (waits : r.status = .waitlisted)
  (stored : d.store.classes.get? r.classId = some c) (balanced : d.store.IsBalancedAt c)
  (distinct : d.store.HasDistinctCodes)

include alone hr waits stored balanced distinct

theorem Service.hasLeft_cancelFound {a : Cancellation}
    (answer : (runOn (perform office (Enrollment.cancelFound r)) d).1 = .ok a) :
    (runOn (perform office (Enrollment.cancelFound r)) d).2.HasLeft d r := by
  have found := Table.get?_of_mem hr
  have active : r.status ≠ .canceled := fun h => nomatch waits.symm.trans h
  obtain ⟨k, stored', place, hstore, honline⟩ :=
    (Enrollment.takesOut_cancelFound (s := d.session) alone found active).of_answer office answer
  obtain rfl := Option.some.inj (stored'.symm.trans (place ▸ stored))
  have fits : (Edit.cancel r).Fits k d.store := .cancel found place active
  refine ⟨honline, ?_, ?_⟩
  · rw [hstore]
    exact Edit.hasDistinctCodes_result fits (fun _ h => nomatch h) distinct d.now
  · rw [hstore]
    have left := Edit.hasLeft_cancel fits balanced waits d.now
    exact ⟨left.others, left.gone⟩

theorem Service.hasLeft_delete {a : List Registration}
    (answer : (runOn (delete office r.id) d).1 = .ok a) :
    (runOn (delete office r.id) d).2.HasLeft d r := by
  have found := Table.get?_of_mem hr
  have active : r.status ≠ .canceled := fun h => nomatch waits.symm.trans h
  obtain ⟨k, stored', place, hstore, honline⟩ :=
    (Enrollment.takesOut_delete (s := d.session) alone found).of_answer office answer
  obtain rfl := Option.some.inj (stored'.symm.trans (place ▸ stored))
  have fits : (Edit.delete r).Fits k d.store := .delete found place
  have hstore : (runOn (delete office r.id) d).2.store = _ := hstore
  refine ⟨honline, ?_, ?_⟩
  · rw [hstore]
    exact Edit.hasDistinctCodes_result fits (fun _ h => nomatch h) distinct d.now
  · rw [hstore]
    have left := Edit.hasLeft_delete (.cancel found place active) balanced waits d.now
    exact ⟨left.others, left.gone⟩

/-- Whatever the way in which somebody is taken off the waitlist. -/
theorem Operation.hasLeft {op : Operation}
    (leaves : op.toCancel? d.store = some r ∨ op = .delete r.id) {a : op.Answer}
    (answer : (runOn (op.perform office) d).1 = .ok a) :
    (runOn (op.perform office) d).2.HasLeft d r := by
  rcases leaves with found | rfl
  · cases op with
    | cancelByCode code =>
      have hrun : runOn ((cancelByCode code).perform office) d = _ :=
        Service.runOn_cancelByCode office found
      rw [hrun] at answer ⊢
      exact Service.hasLeft_cancelFound alone hr waits stored balanced distinct answer
    | cancelById id =>
      have hrun : runOn ((cancelById id).perform office) d = _ :=
        Service.runOn_cancelById office found
      rw [hrun] at answer ⊢
      exact Service.hasLeft_cancelFound alone hr waits stored balanced distinct answer
    | create | setCapacity | checkIn | delete | rebalance => exact nomatch found
  · exact Service.hasLeft_delete alone hr waits stored balanced distinct answer

end Leave

/-- **Places on a waitlist are a ranking**, if no two registrations have the same code and nothing
of a code is trimmed away. Whoever asks with the code of a registration is told of it, and its place
if it waits: one more than the number of those who wait for the class and are ahead. So the places
told to those who wait for a class are the numbers from one to how many they are, each told to one
of them, and the smaller to who is ahead. Once somebody who waits for a balanced class has been
canceled or removed, those behind are told a place less by one, and those ahead the same. -/
theorem Desk.places_are_a_ranking (office : Office) (d : Desk) (alone : d.rival = none)
    (online : d.online = true) (distinct : d.store.HasDistinctCodes)
    (trimmed : ∀ r ∈ d.store.registrations, Text.trim r.code = r.code) :
    (∀ r ∈ d.store.registrations, d.Tells office r
      (if r.status = .waitlisted then
        some (1 + (d.store.registrationsOf r.classId).countP fun q =>
          q.status = .waitlisted ∧ q.IsAhead r)
      else none)) ∧
    (∀ classId k, (∃ r ∈ d.store.registrations, r.classId = classId ∧
        d.Tells office r (some k)) ↔
      1 ≤ k ∧ k ≤ (d.store.registrationsOf classId).countP fun r => r.status = .waitlisted) ∧
    (∀ q ∈ d.store.registrations, ∀ r ∈ d.store.registrations, q.classId = r.classId →
      ∀ k l, d.Tells office q (some k) → d.Tells office r (some l) →
        (k = l ↔ q = r) ∧ (k < l ↔ q.IsAhead r)) ∧
    (∀ c r, d.store.classes.get? r.classId = some c → d.store.IsBalancedAt c →
      r ∈ d.store.registrations → r.status = .waitlisted →
      ∀ op : Operation, op.toCancel? d.store = some r ∨ op = .delete r.id →
      ∀ a, (runOn (op.perform office) d).1 = .ok a →
      ∀ q ∈ d.store.registrations, q.classId = r.classId → q ≠ r →
      ∀ k, d.Tells office q (some k) →
        (runOn (op.perform office) d).2.Tells office q (some (if r.IsAhead q then k - 1 else k))) := by
  have told : ∀ {r : Registration}, r ∈ d.store.registrations → ∀ {place},
      d.Tells office r place ↔ d.store.position? r = place :=
    fun hr => tells_iff online distinct hr (trimmed _ hr)
  refine ⟨fun r hr => ?_, fun classId k => ?_, fun q hq r hr same k l hk hl => ⟨?_, ?_⟩,
    fun c r stored balanced hr waits op leaves a answer q hq same hne k hk => ?_⟩
  · rw [told hr]
    split
    · next waits =>
      rw [Store.position?_eq hr waits, Nat.add_comm]
      rfl
    · next stands => exact Store.position?_eq_none stands
  · rw [← Store.exists_position?_iff]
    exact exists_congr fun r => and_congr_right fun hr => and_congr_right fun _ => told hr
  · rw [told hq] at hk
    rw [told hr] at hl
    constructor
    · rintro rfl
      exact Store.eq_of_position? hq hr same hk hl
    · rintro rfl
      exact Option.some.inj (hk.symm.trans hl)
  · exact Store.position?_lt_iff hq hr same ((told hq).1 hk) ((told hr).1 hl)
  · have left := op.hasLeft alone hr waits stored balanced distinct leaves answer
    have hid : q.id ≠ r.id := fun hid => hne (Table.eq_of_key_eq hq hr hid)
    rw [tells_iff left.online left.distinct ((left.store.mem_iff hid).2 hq) (trimmed q hq)]
    exact left.store.position?_eq hr waits hq same hid ((told hq).1 hk)

/-- The child who came last has the second place, and the first once the one ahead has canceled. -/
theorem Sample.last_moves_up :
    queueDesk.rival = none ∧ queueDesk.online = true ∧ queueDesk.store.HasDistinctCodes ∧
      (∀ r ∈ queueDesk.store.registrations, Text.trim r.code = r.code) ∧
      queueDesk.store.IsBalancedAt yoga ∧ queueDesk.Tells office last (some 2) ∧
      (runOn ((Operation.cancelByCode late.code).perform office) queueDesk).2.Tells office last
        (some 1) := by
  have distinct : queueDesk.store.HasDistinctCodes := by decide
  have trimmed : ∀ r ∈ queueDesk.store.registrations, Text.trim r.code = r.code := by decide
  have balanced : queueDesk.store.IsBalancedAt yoga := by decide
  have hlate : late ∈ queueDesk.store.registrations := Table.mem_of_get? (k := 2) rfl
  have hlast : last ∈ queueDesk.store.registrations := Table.mem_of_get? (k := 3) rfl
  obtain ⟨places, -, -, leaves⟩ :=
    Desk.places_are_a_ranking office queueDesk rfl rfl distinct trimmed
  have second : queueDesk.Tells office last (some 2) := places last hlast
  refine ⟨rfl, rfl, distinct, trimmed, balanced, second, ?_⟩
  obtain ⟨a, answer⟩ : ∃ a, (runOn ((Operation.cancelByCode late.code).perform office)
      queueDesk).1 = .ok a := ⟨_, rfl⟩
  exact leaves yoga late rfl balanced hlate rfl (.cancelByCode late.code) (.inl rfl) a answer last
    hlast rfl (by decide) 2 second

end EnrollmentDesk
