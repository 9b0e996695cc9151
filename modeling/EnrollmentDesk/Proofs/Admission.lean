import EnrollmentDesk.Proofs.Account
import EnrollmentDesk.Proofs.Conflict

/-!
# When a child is admitted

What can be said against a registration is known before anything is done: each objection
(`Objection`) is a condition on the desk by itself, with the error that it is refused with and the
number of draws that are used up by then. They are numbered in the order in which they count. The
first that applies decides, and if none does the child is registered, under the code of the first
draw that is good (`Desk.first_objection_decides`).

All but the last three are found by looking. Then codes are drawn until one is good
(`Enrollment.runOn_freeCode?`), and only with the plan of the rebalance is it known how many rows
will be written, and whether the budget covers them.

Two of the objections stand for what lies outside the range of dates and numbers. The zone of the
families is worked out from the settings in seconds, and the range of a day has to end with an
instant that can be stored.
-/

namespace EnrollmentDesk

/-! ### Good draws -/

namespace Session

/-- The draw after so many others is good: no registration has the code made of it, and the store
says so. -/
def HasFree (s : Session) (word : String) (i : Nat) : Prop :=
  s.clashes ≤ i ∧ ∀ r ∈ s.store.registrations, r.code ≠ RegistrationCode.make word (s.draws.nth i)

/-- Of so many draws, the one after so many others is the first that is good. -/
structure FirstFree (s : Session) (word : String) (n i : Nat) : Prop where
  within : i < n
  free : s.HasFree word i
  first : ∀ j < i, ¬ s.HasFree word j

/-- The session after so many draws that were not good. -/
def missed (s : Session) (n : Nat) : Session :=
  s.drawn (s.draws.after n) (s.clashes - n)

variable {s : Session} {word : String} {m n i j : Nat}

theorem hasFree_missed : (s.missed n).HasFree word i ↔ s.HasFree word (n + i) := by
  change s.clashes - n ≤ i ∧ (∀ r ∈ s.store.registrations,
    r.code ≠ RegistrationCode.make word ((s.draws.after n).nth i)) ↔ _
  rw [Draws.nth_after, Nat.sub_le_iff_le_add']
  exact Iff.rfl

theorem missed_missed : (s.missed m).missed n = s.missed (m + n) := by
  change s.drawn ((s.draws.after m).after n) (s.clashes - m - n) = _
  rw [Draws.after_after, Nat.sub_sub]
  rfl

theorem FirstFree.unique (hi : s.FirstFree word n i) (hj : s.FirstFree word n j) : i = j := by
  rcases Nat.lt_trichotomy i j with h | h | h
  · exact absurd hi.free (hj.first i h)
  · exact h
  · exact absurd hj.free (hi.first j h)

end Session

namespace Enrollment

open Tx

variable {s : Session} {word : String}

theorem runOn_codeExists_of_free (free : s.HasFree word 0) :
    runOn (codeExists (RegistrationCode.make word (s.draws.nth 0)))
      { s with draws := s.draws.after 1 } = (.ok false, s.missed 1) := by
  obtain ⟨hclashes, hfree⟩ := free
  have steady : s.clashes = 0 := Nat.le_zero.1 hclashes
  obtain ⟨store, now, draws, clashes, rival⟩ := s
  obtain rfl : clashes = 0 := steady
  have hno := Store.codeExists_eq_false_iff.2 hfree
  change (Except.ok (store.codeExists _), _) = _
  rw [hno]
  rfl

theorem runOn_codeExists_of_not_free (taken : ¬ s.HasFree word 0) :
    runOn (codeExists (RegistrationCode.make word (s.draws.nth 0)))
      { s with draws := s.draws.after 1 } = (.ok true, s.missed 1) := by
  obtain ⟨store, now, draws, clashes, rival⟩ := s
  cases clashes with
  | zero =>
    have hyes : store.codeExists (RegistrationCode.make word (draws.nth 0)) = true := by
      by_contra hno
      exact taken ⟨Nat.le_refl 0, Store.codeExists_eq_false_iff.1 (by simpa using hno)⟩
    change (Except.ok (store.codeExists _), _) = _
    rw [hyes]
    rfl
  | succ n => rfl

/-- **The first good draw is taken**, if one is among so many. -/
theorem runOn_freeCode? (word : String) (n : Nat) (s : Session) :
    (∃ i, s.FirstFree word n i ∧ runOn (freeCode? word n) s =
      (.ok (some (RegistrationCode.make word (s.draws.nth i))), s.missed (i + 1))) ∨
    ((∀ i < n, ¬ s.HasFree word i) ∧ runOn (freeCode? word n) s = (.ok none, s.missed n)) := by
  induction n generalizing s with
  | zero => exact .inr ⟨fun i hi => absurd hi (Nat.not_lt_zero i), rfl⟩
  | succ n ih =>
    have hdraw : runOn draw s = (.ok (s.draws.nth 0), { s with draws := s.draws.after 1 }) := rfl
    rw [freeCode?, runOn_bind_ok hdraw]
    by_cases free : s.HasFree word 0
    · refine .inl ⟨0, ⟨Nat.succ_pos n, free, fun j hj => absurd hj (Nat.not_lt_zero j)⟩, ?_⟩
      rw [runOn_bind_ok (runOn_codeExists_of_free free)]
      rfl
    · -- the draws that are left are those of the session after one
      rw [runOn_bind_ok (runOn_codeExists_of_not_free free), if_pos rfl]
      have hfirst : ∀ {i}, (∀ j < i, ¬ (s.missed 1).HasFree word j) →
          ∀ j < i + 1, ¬ s.HasFree word j := by
        intro i h
        rw [Nat.forall_lt_succ_left]
        refine ⟨free, fun j hj => ?_⟩
        rw [Nat.add_comm, ← Session.hasFree_missed]
        exact h j hj
      rcases ih (s.missed 1) with ⟨i, found, hrest⟩ | ⟨none, hrest⟩
      · have hfree := Session.hasFree_missed.1 found.free
        have hnth : (s.missed 1).draws.nth i = s.draws.nth (1 + i) := Draws.nth_after _ 1 i
        rw [hnth, Session.missed_missed, ← Nat.add_assoc, Nat.add_comm 1 i] at hrest
        rw [Nat.add_comm] at hfree
        exact .inl ⟨i + 1, ⟨Nat.succ_lt_succ found.within, hfree, hfirst found.first⟩, hrest⟩
      · rw [Session.missed_missed, Nat.add_comm] at hrest
        exact .inr ⟨hfirst none, hrest⟩

/-- So a code is found, or all draws are used up. -/
theorem runOn_freeCode (st : EnrollmentSettings) (s : Session) :
    (∃ i, s.FirstFree st.codeWord st.attempts i ∧ runOn (freeCode st) s =
      (.ok (RegistrationCode.make st.codeWord (s.draws.nth i)), s.missed (i + 1))) ∨
    ((∀ i < st.attempts, ¬ s.HasFree st.codeWord i) ∧ runOn (freeCode st) s =
      (.error (.codesExhausted st.attempts), s.missed st.attempts)) := by
  unfold freeCode
  rcases runOn_freeCode? st.codeWord st.attempts s with ⟨i, found, hrun⟩ | ⟨none, hrun⟩
  · refine .inl ⟨i, found, ?_⟩
    rw [runOn_bind_ok hrun]
    rfl
  · refine .inr ⟨none, ?_⟩
    rw [runOn_bind_ok hrun]
    rfl

end Enrollment

/-! ### Objections -/

/-- What is put in if the draw after so many others is the first that is good. -/
def Desk.newcomer (d : Desk) (st : EnrollmentSettings) (child : Child) (c : Class) (i : Nat) :
    NewRegistration :=
  ⟨child.parentId, child.id, c.id, d.store.startingStatus c,
    RegistrationCode.make st.codeWord (d.draws.nth i)⟩

/-- What can be said against registering the child for the class, each by itself: at which place it
counts, what the desk answers and how many draws have been used up by then. -/
inductive Objection (st : EnrollmentSettings) (d : Desk) (childId classId : Int) :
    Nat → Error → Nat → Prop
  | offline (h : d.online = false) :
      Objection st d childId classId 0 (.database (.socket .missing)) 0
  | noClass (h : d.store.classes.get? classId = none) :
      Objection st d childId classId 1 (.classNotFound classId) 0
  | noChild (h : d.store.children.get? childId = none) :
      Objection st d childId classId 2 (.childNotFound childId) 0
  | tooEarly {c : Class} {opensAt : Instant} (stored : d.store.classes.get? classId = some c)
      (opens : c.signupOpensAt = some opensAt) (early : d.now < opensAt) :
      Objection st d childId classId 3 (.signupNotOpen classId opensAt) 0
  /-- The offset of the zone in seconds is out of range. -/
  | noZone {e : Error} (h : st.zone = .error e) :
      Objection st d childId classId 4 e 0
  | doubled {r : Registration} (hr : r ∈ d.store.registrations) (active : r.isActive = true)
      (child : r.childId = childId) (place : r.classId = classId) :
      Objection st d childId classId 5 (.duplicate childId classId) 0
  /-- The day of the class is out of range, or ends there. -/
  | endless {c : Class} {zone : Offset} (stored : d.store.classes.get? classId = some c)
      (zoned : st.zone = .ok zone) (h : c.date.hasDayBounds zone = false) :
      Objection st d childId classId 6 .outOfRange 0
  | sameDay {c : Class} {zone : Offset} {b : Booking}
      (stored : d.store.classes.get? classId = some c) (zoned : st.zone = .ok zone)
      (first : d.store.IsFirstOn childId c zone b) :
      Objection st d childId classId 7 (.sameDay childId classId b.classId) 0
  | noCode (taken : ∀ i < st.attempts, ¬ d.session.HasFree st.codeWord i) :
      Objection st d childId classId 8 (.codesExhausted st.attempts) st.attempts
  /-- The budget does not cover the new row and the changes of the rebalance after it. -/
  | unpaid {c : Class} {child : Child} {i : Nat} (stored : d.store.classes.get? classId = some c)
      (known : d.store.children.get? childId = some child)
      (found : d.session.FirstFree st.codeWord st.attempts i)
      (short : ¬ d.store.Affords (1 + (((Edit.insert (d.newcomer st child c i)).apply c d.now
        d.store).plan c).changes.length)) :
      Objection st d childId classId 9 (.storage .budgetExhausted) (i + 1)
  | notKept {i : Nat} (found : d.session.FirstFree st.codeWord st.attempts i)
      (fails : d.commitFails = true) :
      Objection st d childId classId 10 (.storage .commitFailed) (i + 1)

namespace Objection

variable {st : EnrollmentSettings} {d : Desk} {childId classId : Int} {k n n' : Nat} {e e' : Error}

/-- At each place there is one thing to answer. -/
theorem unique (h : Objection st d childId classId k e n)
    (h' : Objection st d childId classId k e' n') : e = e' ∧ n = n' := by
  cases h with
  | offline | noClass | noChild | doubled | endless | noCode =>
    cases h'
    exact ⟨rfl, rfl⟩
  | tooEarly stored opens early =>
    cases h' with
    | tooEarly stored' opens' early' =>
      obtain rfl := Option.some.inj (stored.symm.trans stored')
      obtain rfl := Option.some.inj (opens.symm.trans opens')
      exact ⟨rfl, rfl⟩
  | noZone h =>
    cases h' with
    | noZone h' => exact ⟨Except.error.inj (h.symm.trans h'), rfl⟩
  | sameDay stored zoned first =>
    cases h' with
    | sameDay stored' zoned' first' =>
      obtain rfl := Option.some.inj (stored.symm.trans stored')
      obtain rfl := Except.ok.inj (zoned.symm.trans zoned')
      obtain rfl := first.unique first'
      exact ⟨rfl, rfl⟩
  | unpaid stored known found short =>
    cases h' with
    | unpaid _ _ found' => exact ⟨rfl, congrArg (· + 1) (found.unique found')⟩
  | notKept found fails =>
    cases h' with
    | notKept found' => exact ⟨rfl, congrArg (· + 1) (found.unique found')⟩

/-- There are eleven. -/
theorem lt (h : Objection st d childId classId k e n) : k < 11 := by
  cases h <;> decide

/-- Nothing that counts before a place can be said. -/
def Clear (st : EnrollmentSettings) (d : Desk) (childId classId : Int) (k : Nat) : Prop :=
  ∀ j < k, ∀ e n, ¬ Objection st d childId classId j e n

theorem Clear.zero : Clear st d childId classId 0 :=
  fun j hj => absurd hj (Nat.not_lt_zero j)

theorem Clear.succ (h : Clear st d childId classId k)
    (none : ∀ e n, ¬ Objection st d childId classId k e n) : Clear st d childId classId (k + 1) := by
  intro j hj
  rcases Nat.lt_succ_iff_lt_or_eq.1 hj with hj | rfl
  · exact h j hj
  · exact none

end Objection

/-! ### The checks -/

namespace Enrollment

open Tx Objection

/-- Puts a registration in and rebalances its class. -/
def put (new : NewRegistration) : Tx (Verdict Placement) := do
  let created ← insert new
  let promoted ← Tx.rebalance new.classId
  let r ← registration created.id
  let position ← ask fun s => s.position? r
  return .keep ⟨r, position⟩ promoted

/-- What is done once all checks have passed. -/
def enter (st : EnrollmentSettings) (child : Child) (c : Class) : Tx (Verdict Placement) := do
  let taken ← ask fun s => s.confirmedCount c.id
  let status : Status := if (taken : Int) < c.capacity then .confirmed else .waitlisted
  let code ← freeCode st
  put ⟨child.parentId, child.id, c.id, status, code⟩

section Checks

variable (s : Session) (childId classId : Int)

theorem lockClass_cases (alone : s.rival = none) :
    (s.store.classes.get? classId = none ∧
      runOn (lockClass classId) s = (.error (.classNotFound classId), s)) ∨
    ∃ c, s.store.classes.get? classId = some c ∧ runOn (lockClass classId) s = (.ok c, s) := by
  rw [runOn_lockClass alone]
  cases s.store.classes.get? classId with
  | none => exact .inl ⟨rfl, rfl⟩
  | some c => exact .inr ⟨c, rfl, rfl⟩

theorem checkConflicts_cases {c : Class} (stored : s.store.classes.get? c.id = some c)
    (zone : Offset) :
    (s.store.hasActive childId c.id = true ∧
      runOn (checkConflicts childId c.id zone) s = (.error (.duplicate childId c.id), s)) ∨
    (s.store.hasActive childId c.id = false ∧ c.date.hasDayBounds zone = false ∧
      runOn (checkConflicts childId c.id zone) s = (.error .outOfRange, s)) ∨
    (s.store.hasActive childId c.id = false ∧ c.date.hasDayBounds zone = true ∧
      ∃ b, s.store.IsFirstOn childId c zone b ∧
        runOn (checkConflicts childId c.id zone) s =
          (.error (.sameDay childId c.id b.classId), s)) ∨
    (s.store.hasActive childId c.id = false ∧ c.date.hasDayBounds zone = true ∧
      (∀ b, ¬ s.store.IsFirstOn childId c zone b) ∧
        runOn (checkConflicts childId c.id zone) s = (.ok ⟨⟩, s)) := by
  rw [runOn_checkConflicts stored]
  unfold Store.conflict?
  cases single : s.store.hasActive childId c.id with
  | true => exact .inl ⟨rfl, rfl⟩
  | false =>
    cases c.date.hasDayBounds zone with
    | false => exact .inr (.inl ⟨rfl, rfl, rfl⟩)
    | true =>
      rcases Store.find?_conflict single zone with ⟨b, first, found⟩ | ⟨none, found⟩
      · refine .inr (.inr (.inl ⟨rfl, rfl, b, first, ?_⟩))
        rw [found]
        rfl
      · refine .inr (.inr (.inr ⟨rfl, rfl, fun b first => none b first.booked first.meets, ?_⟩))
        rw [found]
        rfl

end Checks

variable {st : EnrollmentSettings} {d : Desk} {childId classId : Int}

/-- The check of conflicts stops at the first objection that it finds. -/
theorem checkConflicts_decides {c : Class} {zone : Offset}
    (stored : d.store.classes.get? c.id = some c) (zoned : st.zone = .ok zone)
    (clear : Clear st d childId c.id 5) :
    (∃ k e, Objection st d childId c.id k e 0 ∧ Clear st d childId c.id k ∧
      runOn (checkConflicts childId c.id zone) d.session = (.error e, d.session)) ∨
    (Clear st d childId c.id 8 ∧
      runOn (checkConflicts childId c.id zone) d.session = (.ok ⟨⟩, d.session)) := by
  rcases checkConflicts_cases d.session childId stored zone with
    ⟨doubled, hrun⟩ | ⟨single, ends, hrun⟩ | ⟨single, ends, b, first, hrun⟩ |
    ⟨single, ends, none, hrun⟩
  · obtain ⟨r, hr, active, child, place⟩ := Store.hasActive_iff.1 doubled
    exact .inl ⟨5, _, .doubled hr active child place, clear, hrun⟩
  all_goals
    replace clear := clear.succ fun _ _ h => by
      cases h with
      | doubled hr active child place =>
        exact Store.hasActive_eq_false_iff.1 single _ hr active child place
  · exact .inl ⟨6, _, .endless stored zoned ends, clear, hrun⟩
  all_goals
    replace clear := clear.succ fun _ _ h => by
      cases h with
      | endless stored' zoned' endless =>
        obtain rfl := Option.some.inj (stored'.symm.trans stored)
        obtain rfl := Except.ok.inj (zoned'.symm.trans zoned)
        exact nomatch endless.symm.trans ends
  · exact .inl ⟨7, _, .sameDay stored zoned first, clear, hrun⟩
  · replace clear := clear.succ fun _ _ h => by
      cases h with
      | sameDay stored' zoned' first =>
        obtain rfl := Option.some.inj (stored'.symm.trans stored)
        obtain rfl := Except.ok.inj (zoned'.symm.trans zoned)
        exact none _ first
    exact .inr ⟨clear, hrun⟩

/-- **The checks** stop at the first objection to be found by looking, and change nothing. -/
theorem runOn_create (alone : d.rival = none) (clear : Clear st d childId classId 1) :
    (∃ k e, Objection st d childId classId k e 0 ∧ Clear st d childId classId k ∧
      runOn (create st childId classId) d.session = (.error e, d.session)) ∨
    (∃ c child, d.store.classes.get? classId = some c ∧
      d.store.children.get? childId = some child ∧ Clear st d childId classId 8 ∧
      runOn (create st childId classId) d.session = runOn (enter st child c) d.session) := by
  unfold create
  rcases lockClass_cases d.session classId alone with ⟨absent, hrun⟩ | ⟨c, stored, hrun⟩
  · exact .inl ⟨1, _, .noClass absent, clear, runOn_bind_error hrun⟩
  obtain rfl : c.id = classId := Table.key_of_get? stored
  replace clear := clear.succ fun _ _ h => by
    cases h with | noClass absent => exact nomatch absent.symm.trans stored
  rw [runOn_bind_ok hrun]
  rcases child_cases d.session childId with ⟨absent, hrun⟩ | ⟨child, known, hrun⟩
  · exact .inl ⟨2, _, .noChild absent, clear, runOn_bind_error hrun⟩
  obtain rfl : child.id = childId := Table.key_of_get? known
  replace clear := clear.succ fun _ _ h => by
    cases h with | noChild absent => exact nomatch absent.symm.trans known
  rw [runOn_bind_ok hrun]
  rcases requireOpen_cases d.session c with ⟨opensAt, opens, early, hrun⟩ | ⟨opened, hrun⟩
  · exact .inl ⟨3, _, .tooEarly stored opens early, clear, runOn_bind_error hrun⟩
  replace clear := clear.succ fun _ _ h => by
    cases h with
    | tooEarly stored' opens early =>
      obtain rfl := Option.some.inj (stored'.symm.trans stored)
      unfold Class.isSignupOpen at opened
      rw [opens] at opened
      exact Int.not_le.2 early (of_decide_eq_true opened)
  rw [runOn_bind_ok hrun]
  have hrun := runOn_lift st.zone d.session
  cases zoned : st.zone with
  | error e =>
    rw [zoned] at hrun
    exact .inl ⟨4, e, .noZone zoned, clear, runOn_bind_error hrun⟩
  | ok zone =>
    rw [zoned] at hrun
    replace clear := clear.succ fun _ _ h => by
      cases h with | noZone failed => exact nomatch failed.symm.trans zoned
    rw [runOn_bind_ok hrun]
    rcases checkConflicts_decides stored zoned clear with ⟨k, e, said, clear, hrun⟩ | ⟨clear, hrun⟩
    · exact .inl ⟨k, e, said, clear, runOn_bind_error hrun⟩
    · exact .inr ⟨c, child, stored, known, clear, runOn_bind_ok hrun⟩

/-! ### Entering -/

section Put

variable {s : Session} {new : NewRegistration} {c : Class} (alone : s.rival = none)
  (stored : s.store.classes.get? c.id = some c) (place : new.classId = c.id)
  (free : s.store.codeExists new.code = false)

include alone stored place free

theorem runOn_put_of_short
    (short : ¬ s.store.Affords ((Edit.insert new).writes c s.now s.store)) :
    ∃ store, runOn (put new) s = (.error (.storage .budgetExhausted), { s with store }) := by
  unfold put
  rw [place]
  exact (writes_insert (place ▸ stored) free).runOn_rebalance_of_not_affords alone stored rfl _ short

/-- **A registration that is put in** is answered as it is stored after the rebalance. -/
theorem runOn_put (affords : s.store.Affords ((Edit.insert new).writes c s.now s.store)) :
    ∃ p : Placement, p.registration.Continues (new.stored (s.store.lastRegistrationId + 1) s.now) ∧
      ((Edit.insert new).result c s.now s.store).registrations.get? p.registration.id =
        some p.registration ∧
      runOn (put new) s = (.ok (.keep p ((Edit.insert new).promoted c s.now s.store)), { s with
        store := ((Edit.insert new).result c s.now s.store).spend
          ((Edit.insert new).writes c s.now s.store) }) := by
  -- the row is found again after the rebalance
  obtain ⟨row, hrow, hcont⟩ := Edit.exists_get?_insert new c s.now s.store
  have hid : row.id = s.store.lastRegistrationId + 1 := hcont.id
  refine ⟨⟨row, ((Edit.insert new).result c s.now s.store).position? row⟩, hcont, ?_, ?_⟩
  · rw [hid]
    exact hrow
  · unfold put
    rw [place, (writes_insert (place ▸ stored) free).runOn_rebalance alone stored rfl _ affords,
      runOn_bind_ok (runOn_registration_of_get? hrow), runOn_bind_ok (runOn_ask _ _)]
    rfl

end Put

/-- The code is that of the first good draw, if there is one. -/
theorem enter_cases (st : EnrollmentSettings) (d : Desk) (child : Child) (c : Class) :
    (∃ i, d.session.FirstFree st.codeWord st.attempts i ∧ runOn (enter st child c) d.session =
      runOn (put (d.newcomer st child c i)) (d.session.missed (i + 1))) ∨
    ((∀ i < st.attempts, ¬ d.session.HasFree st.codeWord i) ∧
      runOn (enter st child c) d.session =
        (.error (.codesExhausted st.attempts), d.session.missed st.attempts)) := by
  unfold enter
  rw [runOn_bind_ok (runOn_ask _ _)]
  rcases runOn_freeCode st d.session with ⟨i, found, hcode⟩ | ⟨none, hcode⟩
  · exact .inl ⟨i, found, runOn_bind_ok hcode⟩
  · exact .inr ⟨none, runOn_bind_error hcode⟩

end Enrollment

/-- A child is admitted with the draw after so many others: it is stored under the next number and
the code of that draw, which is the first that is good, and no other is drawn. -/
structure Admitted (st : EnrollmentSettings) (d : Desk) (childId classId : Int) (i : Nat)
    (p : Placement) (t : Desk) : Prop where
  found : d.session.FirstFree st.codeWord st.attempts i
  draws : t.draws = d.draws.after (i + 1)
  id : p.registration.id = d.store.lastRegistrationId + 1
  child : p.registration.childId = childId
  place : p.registration.classId = classId
  code : p.registration.code = RegistrationCode.make st.codeWord (d.draws.nth i)
  stored : t.store.registrations.get? p.registration.id = some p.registration
  commits : t.store.commits = d.store.commits + 1

namespace Objection

variable {d : Desk}

/-- What is decided once all checks have passed. -/
theorem decides_enter (office : Office) (alone : d.rival = none) (online : d.online = true)
    {c : Class} {child : Child} (stored : d.store.classes.get? c.id = some c)
    (known : d.store.children.get? child.id = some child)
    (clear : Clear office.settings.enrollment d child.id c.id 8)
    (hrun : runOn (Enrollment.create office.settings.enrollment child.id c.id) d.session =
      runOn (Enrollment.enter office.settings.enrollment child c) d.session) :
    (∃ k e n, Objection office.settings.enrollment d child.id c.id k e n ∧
      Clear office.settings.enrollment d child.id c.id k ∧
      runOn (Service.create office child.id c.id) d = (.error e, d.missed n)) ∨
    (Clear office.settings.enrollment d child.id c.id 11 ∧
      ∃ i p t, runOn (Service.create office child.id c.id) d = (.ok p, t) ∧
        Admitted office.settings.enrollment d child.id c.id i p t) := by
  -- a code
  rcases Enrollment.enter_cases office.settings.enrollment d child c with
    ⟨i, found, henter⟩ | ⟨taken, henter⟩
  case inr =>
    exact .inl ⟨8, _, _, .noCode taken, clear,
      Service.runOn_perform_of_error office online (hrun.trans henter)⟩
  replace clear := clear.succ fun _ _ h => by
    cases h with | noCode taken => exact taken i found.within found.free
  rw [henter] at hrun
  have free : (d.session.missed (i + 1)).store.codeExists
      (d.newcomer office.settings.enrollment child c i).code = false :=
    Store.codeExists_eq_false_iff.2 found.free.2
  -- the budget
  by_cases affords : d.store.Affords ((Edit.insert
      (d.newcomer office.settings.enrollment child c i)).writes c d.now d.store)
  case neg =>
    obtain ⟨store, hput⟩ := Enrollment.runOn_put_of_short (s := d.session.missed (i + 1)) alone
      stored rfl free affords
    exact .inl ⟨9, _, _, .unpaid stored known found affords, clear,
      Service.runOn_perform_of_error office online (hrun.trans hput)⟩
  replace clear := clear.succ fun _ _ h => by
    cases h with
    | unpaid stored' known' found' short =>
      obtain rfl := Option.some.inj (stored'.symm.trans stored)
      obtain rfl := Option.some.inj (known'.symm.trans known)
      obtain rfl := found.unique found'
      exact short affords
  obtain ⟨p, hcont, hrow, hput⟩ := Enrollment.runOn_put (s := d.session.missed (i + 1)) alone
    stored rfl free affords
  have hkeep := Service.runOn_perform_of_keep office online (hrun.trans hput)
  -- the commit
  cases fails : d.commitFails with
  | true =>
    rw [if_pos fails] at hkeep
    exact .inl ⟨10, _, _, .notKept found fails, clear, hkeep⟩
  | false =>
    rw [if_neg (ne_of_eq_of_ne fails Bool.false_ne_true)] at hkeep
    replace clear := clear.succ fun _ _ h => by
      cases h with | notKept _ fails' => exact nomatch fails'.symm.trans fails
    obtain ⟨report, sent, hann⟩ := Service.runOn_announce office _ _
    rw [hann] at hkeep
    exact .inr ⟨clear, i, p, _, hkeep,
      ⟨found, rfl, hcont.id, hcont.childId, hcont.classId, hcont.code, hrow, rfl⟩⟩

/-- One objection decides, or there is none and the child is admitted. -/
theorem decides (office : Office) (alone : d.rival = none) (childId classId : Int) :
    (∃ k e n, Objection office.settings.enrollment d childId classId k e n ∧
      Clear office.settings.enrollment d childId classId k ∧
      runOn (Service.create office childId classId) d = (.error e, d.missed n)) ∨
    (Clear office.settings.enrollment d childId classId 11 ∧
      ∃ i p t, runOn (Service.create office childId classId) d = (.ok p, t) ∧
        Admitted office.settings.enrollment d childId classId i p t) := by
  have clear : Clear office.settings.enrollment d childId classId 0 := .zero
  cases online : d.online with
  | false => exact .inl ⟨0, _, 0, .offline online, clear, Service.runOn_perform_of_offline office _ online⟩
  | true =>
    replace clear := clear.succ fun _ _ h => by
      cases h with | offline offline => exact nomatch offline.symm.trans online
    rcases Enrollment.runOn_create alone clear with
      ⟨k, e, said, clear, hrun⟩ | ⟨c, child, stored, known, clear, hrun⟩
    · exact .inl ⟨k, e, 0, said, clear, Service.runOn_perform_of_error office online hrun⟩
    · obtain rfl : c.id = classId := Table.key_of_get? stored
      obtain rfl : child.id = childId := Table.key_of_get? known
      exact decides_enter office alone online stored known clear hrun

end Objection

/-- **When a child is admitted.** Of all that can be said against the registration, what counts
first decides: it is refused with that error, and the desk is left as it was but for the draws that
were made. If nothing can be said, the child is registered, under the code of the first good
draw. -/
theorem Desk.first_objection_decides (office : Office) (d : Desk) (alone : d.rival = none)
    (childId classId : Int) :
    (∀ k e n, Objection office.settings.enrollment d childId classId k e n →
      (∀ j < k, ∀ e' n', ¬ Objection office.settings.enrollment d childId classId j e' n') →
      runOn (Service.create office childId classId) d = (.error e, d.missed n)) ∧
    ((∀ k e n, ¬ Objection office.settings.enrollment d childId classId k e n) →
      ∃ i p t, runOn (Service.create office childId classId) d = (.ok p, t) ∧
        Admitted office.settings.enrollment d childId classId i p t) := by
  rcases Objection.decides office alone childId classId with
    ⟨k, e, n, said, clear, hrun⟩ | ⟨clear, admitted⟩
  · refine ⟨fun k' e' n' said' clear' => ?_, fun none => absurd said (none k e n)⟩
    -- there is only one first
    rcases Nat.lt_trichotomy k k' with h | rfl | h
    · exact absurd said (clear' k h e n)
    · obtain ⟨rfl, rfl⟩ := said.unique said'
      exact hrun
    · exact absurd said' (clear k' h e' n')
  · exact ⟨fun k e n said => absurd said (clear k said.lt e n), fun _ => admitted⟩

namespace Sample

/-- The child who has a class on the day is refused for another, and nothing before that is said. -/
theorem ada_is_refused :
    busyDesk.rival = none ∧
      Objection office.settings.enrollment busyDesk 1 2 7 (.sameDay 1 2 1) 0 ∧
      (∀ j < 7, ∀ e n, ¬ Objection office.settings.enrollment busyDesk 1 2 j e n) ∧
      runOn (Service.create office 1 2) busyDesk = (.error (.sameDay 1 2 1), busyDesk) := by
  have stored : busyDesk.store.classes.get? 2 = some pottery := rfl
  have zoned : office.settings.enrollment.zone = .ok east := rfl
  have only : busyDesk.store.bookingsOf 1 = [⟨1, 1, yoga.date, .confirmed⟩] := by decide
  have first : busyDesk.store.IsFirstOn 1 pottery east ⟨1, 1, yoga.date, .confirmed⟩ := by
    refine ⟨?_, by decide, fun x hx _ => ?_⟩
    · rw [only]
      exact List.mem_singleton_self _
    · rw [only] at hx
      obtain rfl := List.mem_singleton.1 hx
      decide
  have said : Objection office.settings.enrollment busyDesk 1 2 7 (.sameDay 1 2 1) 0 :=
    .sameDay stored zoned first
  have clear : ∀ j < 7, ∀ e n, ¬ Objection office.settings.enrollment busyDesk 1 2 j e n := by
    intro j hj e n h
    cases h with
    | offline h => exact nomatch h
    | noClass h => exact nomatch h
    | noChild h => exact nomatch h
    | noZone h => exact nomatch h
    | tooEarly stored' opens =>
      obtain rfl := Option.some.inj (stored'.symm.trans stored)
      exact nomatch opens
    | doubled hr active child place =>
      have single : busyDesk.store.hasActive 1 2 = false := by decide
      exact Store.hasActive_eq_false_iff.1 single _ hr active child place
    | endless stored' zoned' h =>
      obtain rfl := Option.some.inj (stored'.symm.trans stored)
      obtain rfl := Except.ok.inj (zoned'.symm.trans zoned)
      exact absurd h (by decide)
    | sameDay | noCode | unpaid | notKept => exact absurd hj (by decide)
  exact ⟨rfl, said, clear, (Desk.first_objection_decides office busyDesk rfl 1 2).1 7 _ _ said clear⟩

/-- A class on the first day that there is, before noon in the zone. -/
def sunrise : Class :=
  { yoga with date := Instant.earliest.plusSeconds 10800 }

/-- A class two hours later. -/
def brunch : Class :=
  { yoga with id := 2, date := Instant.earliest.plusSeconds 18000 }

/-- The desk at which a child has the first of both classes. -/
def dawnDesk : Desk where
  store := (((({} : Store).addClass sunrise).addClass brunch).addRegistration early).addChild
    ⟨1, 1, "Ada", ⟨0⟩⟩
  now := desk.now
  draws := desk.draws

/-- An office so far from universal time that its offset in seconds is out of range. -/
def farOffice : Office :=
  { office with settings := { enrollment := { offsetMinutes := 2147483647 } } }

/-- **On the first day an earlier class is overlooked**: the child gets two on one day, because the
range of the day begins with the class that it is registered for. And where the offset of the zone
is out of range, a child is refused that could be registered elsewhere. -/
theorem earlier_class_is_overlooked :
    dawnDesk.rival = none ∧ office.settings.enrollment.zone = .ok east ∧
      dawnDesk.store.IsNumbered ∧
      ⟨1, 1, sunrise.date, .confirmed⟩ ∈ dawnDesk.store.bookingsOf 1 ∧
      sunrise.date.sameDay brunch.date east = true ∧
      (runOn (Service.create office 1 2) dawnDesk).1.isOk = true ∧
      (runOn (Service.create office 1 2) dawnDesk).2.store.hasActive 1 1 = true ∧
      (runOn (Service.create office 1 2) dawnDesk).2.store.hasActive 1 2 = true ∧
      (runOn (Service.create office 3 1) thirdDesk).1.isOk = true ∧
      (runOn (Service.create farOffice 3 1) thirdDesk).1 = .error .outOfRange :=
  ⟨rfl, rfl, by decide, by decide, by decide, rfl, rfl, rfl, rfl, rfl⟩

end Sample

end EnrollmentDesk
