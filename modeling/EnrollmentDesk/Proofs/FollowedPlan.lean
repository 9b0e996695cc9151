import EnrollmentDesk.Proofs.Balance

/-!
# A rebalance follows its plan

A rebalance makes its plan from a copy of the class, filtered and in line, and then writes the
changes of the plan one by one into the store, each to the row with the number it names. That this
is the plan and nothing but the plan is stated here against the plan as it was made
(`Store.Follows`): row by row what it assigns, what it changes and what it leaves alone, and beyond
the rows of registrations only the budget.

The writes themselves are taken together in `Tx.runOn_rebalance`, so nothing here looks at their
order. What is left is to read the closed form of the plan against the store after them: the
assignments against the rows that are active then, the changes against the rows that differ, and
the answer against the promotions, in their order (`Seating.promotions_changesTo`).

A rebalance leaves the class balanced, and one of a balanced class writes nothing. So a second one,
right after the first, finds nothing to do, whatever the first has left of the budget.
-/

namespace EnrollmentDesk

namespace Seating

/-- The promotions among changes are those of registrations that wait and are given a seat. -/
theorem promotions_changesTo (status : Registration → Status) (l : List Registration) :
    (changesTo status l).filter Change.isPromotion =
      (l.filter fun r => r.status = .waitlisted ∧ status r = .confirmed).map fun r =>
        ⟨r.id, r.status, status r⟩ := by
  induction l with
  | nil => rfl
  | cons r l ih =>
    by_cases hs : r.status = status r
    · -- no change, and so no promotion
      have hno : ¬ (r.status = .waitlisted ∧ status r = .confirmed) := by
        rintro ⟨waits, sits⟩
        exact nomatch waits.symm.trans (hs.trans sits)
      rw [changesTo_cons_of_eq hs, ih, List.filter_cons_of_neg (by simpa using hno)]
    · rw [changesTo_cons_of_ne hs]
      by_cases hp : r.status = .waitlisted ∧ status r = .confirmed
      · have hchange : (⟨r.id, r.status, status r⟩ : Change).isPromotion = true := by
          unfold Change.isPromotion
          rw [hp.1, hp.2]
          rfl
        rw [List.filter_cons_of_pos hchange, List.filter_cons_of_pos (by simpa using hp), ih]
        rfl
      · have hchange : ¬ (⟨r.id, r.status, status r⟩ : Change).isPromotion = true := by
          unfold Change.isPromotion
          simpa using hp
        rw [List.filter_cons_of_neg hchange, List.filter_cons_of_neg (by simpa using hp), ih]

end Seating

open Seating

/-- The registration that a promotion of a plan has given a seat, as it is handed out: the row that
waited in the store of the plan, but for its status. -/
def Store.HandsOut (s : Store) (x : Change) (q : Registration) : Prop :=
  ∃ r, s.registrations.get? x.registrationId = some r ∧ r.status = .waitlisted ∧
    q = { r with status := .confirmed }

/-- The store `t` is what carrying out a plan for a class makes of `s`. -/
structure Store.Follows (s : Store) (c : Class) (p : Plan) (now : Instant) (t : Store) : Prop where
  /-- Nobody is assigned two statuses. -/
  distinct : (p.assignments.map Prod.fst).Nodup
  /-- Everyone active in the class is assigned a status, and has it afterwards. -/
  assigned : ∀ r ∈ s.registrations, r.classId = c.id → r.isActive = true →
    ∃ status, (r.id, status) ∈ p.assignments ∧ t.Has r.id status
  /-- The active rows of the class then are those of the plan, with the statuses it assigns. -/
  seated : ∀ id status, (id, status) ∈ p.assignments ↔
    ∃ r ∈ t.registrations, r.id = id ∧ r.classId = c.id ∧ r.isActive = true ∧ r.status = status
  /-- Who is named in a change had the old status and has the new one, from now on. -/
  changed : ∀ x ∈ p.changes, ∃ r, s.registrations.get? x.registrationId = some r ∧
    r.status = x.old ∧ t.registrations.get? x.registrationId =
      some { r with status := x.new, updatedAt := now }
  /-- The other rows are as they were. -/
  kept : ∀ id, (∀ x ∈ p.changes, x.registrationId ≠ id) →
    t.registrations.get? id = s.registrations.get? id
  /-- Nothing else is touched, but that each change is paid for. -/
  apart : t = (s.withRegistrations t.registrations).spend p.changes.length

namespace Store

variable {s : Store} {c : Class} {now : Instant}

theorem mem_plan_assignments {id : Int} {status : Status} :
    (id, status) ∈ (s.plan c).assignments ↔
      ∃ r ∈ s.registrations, r.id = id ∧ r.classId = c.id ∧ r.isActive = true ∧
        s.due c r = status := by
  unfold plan
  rw [plan_assignments _ (s.nodup_registrationsOf c.id), List.mem_map]
  constructor
  · rintro ⟨r, hr, heq⟩
    obtain ⟨hid, hdue⟩ := Prod.mk.inj heq
    obtain ⟨hmem, place, active⟩ := Tx.mem_order_registrationsOf.1 hr
    exact ⟨r, hmem, hid, place, active, hdue⟩
  · rintro ⟨r, hmem, hid, place, active, hdue⟩
    exact ⟨r, Tx.mem_order_registrationsOf.2 ⟨hmem, place, active⟩, Prod.ext hid hdue⟩

theorem mem_plan_changes {x : Change} :
    x ∈ (s.plan c).changes ↔ ∃ r ∈ s.registrations, r.classId = c.id ∧ r.isActive = true ∧
      r.status ≠ s.due c r ∧ x = ⟨r.id, r.status, s.due c r⟩ := by
  rw [s.plan_changes c, mem_changesTo]
  simp only [Tx.mem_order_registrationsOf, and_assoc]

/-- A row that no change names is left as it is. -/
theorem seatedRow_of_unnamed {r : Registration} (hr : r ∈ s.registrations)
    (unnamed : ∀ x ∈ (s.plan c).changes, x.registrationId ≠ r.id) :
    s.seatedRow c now r = r := by
  -- had it another status than the one due, a change would name it
  refine seatedRow_of_eq fun place active => by_contra fun differs => ?_
  exact unnamed _ (mem_plan_changes.2 ⟨r, hr, place, active, differs, rfl⟩) rfl

/-- **Giving everyone the status due follows the plan.** -/
theorem follows_plan (s : Store) (c : Class) (now : Instant) :
    s.Follows c (s.plan c) now ((s.seated c now).spend (s.plan c).changes.length) where
  distinct := by
    unfold plan
    rw [plan_assignments _ (s.nodup_registrationsOf c.id), List.map_map]
    exact Tx.nodup_order_registrationsOf s c
  assigned r hr place active := by
    refine ⟨s.due c r, mem_plan_assignments.2 ⟨r, hr, rfl, place, active, rfl⟩, ?_⟩
    exact ⟨s.seatedRow c now r, mem_seated.2 ⟨r, hr, rfl⟩, s.seatedRow_id c now r,
      seatedRow_status place active⟩
  seated id status := by
    rw [mem_plan_assignments]
    constructor
    · rintro ⟨r, hr, hid, place, active, hdue⟩
      refine ⟨s.seatedRow c now r, mem_seated.2 ⟨r, hr, rfl⟩, ?_, ?_, ?_, ?_⟩
      · rw [seatedRow_id, hid]
      · rw [seatedRow_classId, place]
      · rw [seatedRow_isActive, active]
      · rw [seatedRow_status place active, hdue]
    · -- a rebalance makes nobody active who was not, so the row was planned for
      rintro ⟨r', hr', hid, place, active, hstatus⟩
      obtain ⟨r, hr, rfl⟩ := mem_seated.1 hr'
      rw [seatedRow_id] at hid
      rw [seatedRow_classId] at place
      rw [seatedRow_isActive] at active
      rw [seatedRow_status place active] at hstatus
      exact ⟨r, hr, hid, place, active, hstatus⟩
  changed x hx := by
    obtain ⟨r, hr, place, active, differs, rfl⟩ := mem_plan_changes.1 hx
    have hget := Table.get?_of_mem hr
    refine ⟨r, hget, rfl, ?_⟩
    change (s.seated c now).registrations.get? r.id = _
    rw [get?_seated, hget, Option.map_some, seatedRow_of_ne place active differs]
  kept id unnamed := by
    change (s.seated c now).registrations.get? id = _
    rw [get?_seated]
    cases hr : s.registrations.get? id with
    | none => rfl
    | some r =>
      have hid : r.id = id := Table.key_of_get? hr
      rw [Option.map_some, seatedRow_of_unnamed (Table.mem_of_get? hr) (hid ▸ unnamed)]
  apart := rfl

/-- Those promoted are the promotions of the plan, one by one. -/
theorem handsOut_promoted (s : Store) (c : Class) :
    List.Forall₂ s.HandsOut (s.plan c).promotions (s.promoted c) := by
  have hplan : (s.plan c).promotions = _ :=
    (congrArg (List.filter Change.isPromotion) (s.plan_changes c)).trans
      (promotions_changesTo _ _)
  rw [hplan]
  unfold promoted
  rw [List.forall₂_map_left_iff, List.forall₂_map_right_iff, List.forall₂_same]
  intro r hr
  obtain ⟨horder, hp⟩ := List.mem_filter.1 hr
  have hmem := (Tx.mem_order_registrationsOf.1 horder).1
  exact ⟨r, Table.get?_of_mem hmem, (of_decide_eq_true hp).1, rfl⟩

end Store

namespace Tx

variable {s : Session} {c : Class}

/-- A rebalance of a balanced class does nothing, whatever the budget. -/
theorem runOn_rebalance_of_isBalancedAt (alone : s.rival = none)
    (stored : s.store.classes.get? c.id = some c) (balanced : s.store.IsBalancedAt c) :
    runOn (rebalance c.id) s = (.ok [], s) := by
  have hnone := balanced.changes_eq_nil
  have affords : s.store.Affords (s.store.plan c).changes.length := by
    rw [hnone]
    exact s.store.affords_zero
  rw [runOn_rebalance alone stored affords, balanced.promoted_eq_nil, balanced.seated_eq, hnone,
    List.length_nil, s.store.spend_zero]

/-- **A rebalance follows its plan.** It fails at once if the class is not stored. If the budget
covers the changes of the plan for the class, they are all made, and nothing else; the answer lists
the promotions of the plan in its order, and a second rebalance finds nothing to do. If the budget
does not cover them, the rebalance fails. -/
theorem rebalance_follows_plan (s : Session) (alone : s.rival = none) (classId : Int) :
    (s.store.classes.get? classId = none →
      runOn (rebalance classId) s = (.error (.classNotFound classId), s)) ∧
    ∀ c, s.store.classes.get? classId = some c →
      (s.store.Affords
          (Seating.plan c.capacity (s.store.registrationsOf classId)).changes.length →
        ∃ promoted t, runOn (rebalance classId) s = (.ok promoted, { s with store := t }) ∧
          s.store.Follows c (Seating.plan c.capacity (s.store.registrationsOf classId)) s.now t ∧
          List.Forall₂ s.store.HandsOut
            (Seating.plan c.capacity (s.store.registrationsOf classId)).promotions promoted ∧
          runOn (rebalance classId) { s with store := t } = (.ok [], { s with store := t })) ∧
      (¬ s.store.Affords
          (Seating.plan c.capacity (s.store.registrationsOf classId)).changes.length →
        ∃ t, runOn (rebalance classId) s =
          (.error (.storage .budgetExhausted), { s with store := t })) := by
  constructor
  · intro absent
    have hlock : runOn (lockClass classId) s = (.error (.classNotFound classId), s) := by
      rw [runOn_lockClass alone, absent]
    unfold rebalance
    exact runOn_bind_error hlock
  · intro c stored
    obtain rfl : c.id = classId := Table.key_of_get? stored
    refine ⟨fun affords => ?_, fun h => runOn_rebalance_of_not_affords alone stored h⟩
    refine ⟨s.store.promoted c,
      (s.store.seated c s.now).spend (s.store.plan c).changes.length,
      runOn_rebalance alone stored affords, s.store.follows_plan c s.now,
      s.store.handsOut_promoted c, ?_⟩
    -- the class is balanced now, and what is left of the budget does not matter
    exact runOn_rebalance_of_isBalancedAt alone stored
      (Store.isBalancedAt_seated s.store c s.now)

end Tx

namespace Sample

/-- A session in which the seat has been given up, and paid for a single write more. -/
def freedSession : Session where
  store := { store.withRegistrations (store.registrations.put (early.canceled ⟨5⟩)) with
    writeBudget := some 1 }
  now := desk.now
  draws := desk.draws

/-- The child who waits is promoted with the last write, and then there is nothing left to do. -/
theorem freed_seat_is_planned_for :
    freedSession.rival = none ∧ freedSession.store.classes.get? 1 = some yoga ∧
      freedSession.store.Affords 1 ∧
      ∃ t, runOn (Tx.rebalance 1) freedSession =
          (.ok [{ late with status := .confirmed }], { freedSession with store := t }) ∧
        t.Has 2 .confirmed ∧ t.writeBudget = some 0 ∧
        runOn (Tx.rebalance 1) { freedSession with store := t } =
          (.ok [], { freedSession with store := t }) := by
  have affords : freedSession.store.Affords 1 := by
    intro budget h
    obtain rfl := Option.some.inj h
    decide
  obtain ⟨promoted, t, hrun, follows, -, again⟩ :=
    ((Tx.rebalance_follows_plan freedSession rfl 1).2 yoga rfl).1 affords
  obtain ⟨hpromoted, hstore⟩ := Prod.mk.inj hrun
  refine ⟨rfl, rfl, affords, t, ?_, ?_, ?_, again⟩
  · rw [hrun]
    exact congrArg (·, _) hpromoted.symm
  · obtain ⟨r, hr, hid, -, -, hstatus⟩ := (follows.seated 2 .confirmed).1 (by decide)
    exact ⟨r, hr, hid, hstatus⟩
  · rw [follows.apart]
    rfl

end Sample

end EnrollmentDesk
