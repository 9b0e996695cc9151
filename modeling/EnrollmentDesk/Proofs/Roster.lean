import EnrollmentDesk.Proofs.WaitingLine

/-!
# The roster of a class

An admin is shown how the seats of a class are taken (`Store.occupancy?`): how many who sit are
still to come, how many of them have been checked in, and how many wait. The roster goes through the
rows of the class by itself. The number of the confirmed, off which the status of a newcomer is
read, is counted elsewhere (`Store.confirmedCount`), and so are the active ones, for whom the
planner has seats (`Store.activeOf`). None of these counts looks at another.

They add up in every store (`Store.IsRoster`). What else an admin reads off the roster needs a
balanced class: that nobody waits while a seat is free, and that a class with more children in it
than seats is overfull only by those who have been checked in. A class that is not balanced may
have a child checked in whose registration waits, and the roster counts it with those who wait.
-/

namespace EnrollmentDesk

namespace Seating

variable (rs : List Registration)

/-- Who sits is still to come or has been checked in. -/
theorem countP_confirmed :
    (rs.countP fun r => r.status = .confirmed) =
      (rs.countP fun r => r.status == .confirmed && !r.isAnchored) +
        rs.countP fun r => r.status == .confirmed && r.isAnchored := by
  rw [List.countP_eq_countP_filter_add rs _ fun r => !r.isAnchored, List.countP_filter,
    List.countP_filter]
  simp only [beq_eq_decide, Bool.not_not]

/-- Who is active sits or waits. -/
theorem countP_active :
    rs.countP Registration.isActive =
      (rs.countP fun r => r.status = .confirmed) + rs.countP fun r => r.status == .waitlisted := by
  rw [List.countP_eq_countP_filter_add rs _ fun r => decide (r.status = .confirmed),
    List.countP_filter, List.countP_filter]
  congr 1
  · refine List.countP_congr fun r _ => ?_
    rw [Bool.and_eq_true, decide_eq_true_iff]
    exact and_iff_right_of_imp Registration.isActive_of_status_eq_confirmed
  · refine List.countP_congr fun r _ => ?_
    rw [Bool.and_eq_true, Bool.not_eq_true', decide_eq_false_iff_not, beq_iff_eq,
      Registration.isActive_iff]
    constructor
    · exact fun ⟨active, stands⟩ => active.resolve_left stands
    · exact fun waits => ⟨.inr waits, fun sits => nomatch waits.symm.trans sits⟩

end Seating

open Seating

/-! ### What is read off a roster -/

namespace Occupancy

variable {o : Occupancy}

/-- A seat is free if fewer are taken than there are. -/
theorem available_pos : 0 < o.available ↔ o.confirmed + o.checkedIn < o.capacity := by
  unfold available
  omega

theorem isFull_iff : o.isFull = true ↔ o.capacity ≤ o.confirmed + o.checkedIn := by
  unfold isFull available
  rw [decide_eq_true_iff]
  omega

/-- More than all seats are taken if that is what the percentage says: what is cut off by the
division is less than one percent. -/
theorem lt_of_hundred_lt_fillPercent (taken : 0 ≤ o.confirmed + o.checkedIn)
    (h : 100 < o.fillPercent) : max o.capacity 0 < o.confirmed + o.checkedIn := by
  unfold fillPercent at h
  by_cases none : o.capacity ≤ 0
  · rw [if_pos none] at h
    exact absurd h (by decide)
  · have seats : 0 < o.capacity := Int.not_le.1 none
    have hundredfold : 0 ≤ (o.confirmed + o.checkedIn) * 100 := by omega
    rw [if_neg none, Int.tdiv_eq_ediv_of_nonneg hundredfold] at h
    have more : 101 * o.capacity ≤ (o.confirmed + o.checkedIn) * 100 :=
      (Int.le_ediv_iff_mul_le seats).1 h
    omega

end Occupancy

/-! ### Counts that agree -/

namespace Store

variable {s : Store} {c : Class} {o : Occupancy}

/-- The roster of a class agrees with the other counts of its registrations. -/
structure IsRoster (s : Store) (c : Class) (o : Occupancy) : Prop where
  classId : o.classId = c.id
  className : o.className = c.name
  capacity : o.capacity = c.capacity
  seated : o.confirmed + o.checkedIn = s.confirmedCount c.id
  /-- All who are active sit or wait. -/
  active : o.confirmed + o.checkedIn + o.waitlisted = (s.activeOf c.id).length
  /-- Who is counted as checked in sits. -/
  checkedIn : o.checkedIn =
    (s.activeOf c.id).countP fun r => r.status = .confirmed ∧ r.isAnchored = true
  waitlisted : o.waitlisted = (s.activeOf c.id).countP fun r => r.status = .waitlisted
  nonneg : 0 ≤ o.confirmed

theorem countP_activeOf (s : Store) (classId : Int) (p : Registration → Bool) :
    (s.activeOf classId).countP p =
      (s.registrationsOf classId).countP fun r => p r && r.isActive := by
  rw [(s.activeOf_perm classId).countP_eq, List.countP_filter]

/-- **The roster of a class adds up**, whatever the store. -/
theorem exists_roster (stored : s.classes.get? c.id = some c) :
    ∃ o, s.occupancy? c.id = some o ∧ s.IsRoster c o := by
  have everyone : (s.activeOf c.id).length =
      (s.registrationsOf c.id).countP Registration.isActive := by
    rw [(s.activeOf_perm c.id).length_eq, List.countP_eq_length_filter]
  have present : ((s.registrationsOf c.id).countP fun r =>
        r.status == .confirmed && r.isAnchored) =
      (s.activeOf c.id).countP fun r => r.status = .confirmed ∧ r.isAnchored = true := by
    rw [countP_activeOf]
    refine List.countP_congr fun r _ => ?_
    simp only [Bool.and_eq_true, beq_iff_eq, decide_eq_true_eq]
    exact (and_iff_left_of_imp fun h =>
      Registration.isActive_of_status_eq_confirmed h.1).symm
  have waiting : ((s.registrationsOf c.id).countP fun r => r.status == .waitlisted) =
      (s.activeOf c.id).countP fun r => r.status = .waitlisted := by
    rw [countP_activeOf]
    refine List.countP_congr fun r _ => ?_
    rw [Bool.and_eq_true, beq_iff_eq, decide_eq_true_iff]
    exact (and_iff_left_of_imp fun waits => Registration.isActive_iff.2 (.inr waits)).symm
  refine ⟨_, congrArg (Option.map _) stored,
    { classId := rfl
      className := rfl
      capacity := rfl
      seated := ?_
      active := ?_
      checkedIn := congrArg Nat.cast present
      waitlisted := congrArg Nat.cast waiting
      nonneg := Int.natCast_nonneg _ }⟩
  · rw [s.confirmedCount_eq, countP_confirmed]
    exact (Int.natCast_add _ _).symm
  · rw [everyone, countP_active, countP_confirmed, Int.natCast_add, Int.natCast_add]

/-! ### A balanced class -/

section Balanced

variable (roster : s.IsRoster c o) (balanced : s.IsBalancedAt c)

include roster balanced

/-- In a balanced class everyone who has been checked in sits, so the roster counts them all. -/
theorem IsRoster.checkedIn_eq :
    o.checkedIn = (s.activeOf c.id).countP Registration.isAnchored := by
  rw [roster.checkedIn]
  congr 1
  refine List.countP_congr fun r hr => ?_
  obtain ⟨hr, place, active⟩ := mem_activeOf.1 hr
  rw [decide_eq_true_iff]
  constructor
  · exact fun h => h.2
  · intro present
    have sits := balanced.isFair.anchored_sit r (mem_registrationsOf.2 ⟨hr, place⟩) active present
    exact ⟨sits, present⟩

/-- In a balanced class nobody waits while a seat is free. -/
theorem IsRoster.isFull (waits : 0 < o.waitlisted) : o.isFull = true := by
  have some_wait : 0 < (s.activeOf c.id).countP fun r => r.status = .waitlisted := by
    have hcount := roster.waitlisted
    omega
  obtain ⟨r, hr, waits⟩ := List.countP_pos_iff.1 some_wait
  obtain ⟨hr, place, -⟩ := mem_activeOf.1 hr
  have seats := balanced.toNat_le_confirmedCount hr place (of_decide_eq_true waits)
  have hseated := roster.seated
  rw [Occupancy.isFull_iff, roster.capacity]
  omega

/-- A balanced class with more in it than seats has nobody in it but those who have been checked
in. -/
theorem IsRoster.confirmed_eq_zero (overfull : max c.capacity 0 < o.confirmed + o.checkedIn) :
    o.confirmed = 0 := by
  have hseated := roster.seated
  have hcount := balanced.confirmedCount_eq
  have hpresent := roster.checkedIn_eq balanced
  rw [countP_activeOf] at hpresent
  -- seats that are there are filled up to their number, so what is more was checked in
  have same : ((s.registrationsOf c.id).countP fun r => r.isActive && r.isAnchored) =
      (s.registrationsOf c.id).countP fun r => r.isAnchored && r.isActive :=
    List.countP_congr fun r _ => by rw [Bool.and_comm]
  omega

/-- A balanced class is filled to more than a hundred percent only if more were checked in than
there are seats. -/
theorem IsRoster.lt_checkedIn (overfull : 100 < o.fillPercent) : c.capacity < o.checkedIn := by
  have hseated := roster.seated
  have taken := Occupancy.lt_of_hundred_lt_fillPercent (by omega) overfull
  rw [roster.capacity] at taken
  have hzero := roster.confirmed_eq_zero balanced taken
  omega

end Balanced

/-- The roster has a seat to offer exactly if a newcomer would get one. -/
theorem available_pos_iff {classId : Int} (stored : s.classes.get? classId = some c)
    (roster : s.occupancy? classId = some o) :
    0 < o.available ↔ (s.confirmedCount classId : Int) < c.capacity := by
  obtain rfl := Table.key_of_get? stored
  obtain ⟨o', roster', agrees⟩ := exists_roster stored
  obtain rfl := Option.some.inj (roster.symm.trans roster')
  rw [Occupancy.available_pos, agrees.seated, agrees.capacity]

end Store

/-! ### At the desk -/

namespace Service

variable {office : Office} {d : Desk}

theorem runOn_occupancy (online : d.online = true) {classId : Int} {o : Occupancy}
    (roster : d.store.occupancy? classId = some o) :
    (runOn (occupancy office classId) d).1 = .ok o := by
  have roster : d.session.store.occupancy? classId = some o := roster
  have hwork : runOn (Enrollment.occupancy classId) d.session = (.ok (.drop o), d.session) := by
    unfold Enrollment.occupancy Tx.occupancy?
    rw [runOn_bind_ok (Tx.runOn_ask _ _), roster]
    rfl
  unfold occupancy
  rw [runOn_perform_of_drop office online hwork]

end Service

/-- **The roster adds up.** Whoever asks for a stored class is told how many sit and are still to
come, how many of them have been checked in, and how many wait. The first two make up the number of
the confirmed, and all three that of the active ones. If the class is balanced, everyone in it who
has been checked in is counted as such; it is full if anybody waits; if more are in it than there
are seats, nobody is still to come; and it is filled to more than a hundred percent only if more
were checked in than there are seats. -/
theorem Desk.roster_adds_up (office : Office) (d : Desk) (online : d.online = true) {c : Class}
    (stored : d.store.classes.get? c.id = some c) :
    ∃ o, (runOn (Service.occupancy office c.id) d).1 = .ok o ∧
      o.capacity = c.capacity ∧
      o.confirmed + o.checkedIn = d.store.confirmedCount c.id ∧
      o.confirmed + o.checkedIn + o.waitlisted = (d.store.activeOf c.id).length ∧
      (d.store.IsBalancedAt c →
        o.checkedIn = (d.store.activeOf c.id).countP Registration.isAnchored ∧
        (0 < o.waitlisted → o.isFull = true) ∧
        (max c.capacity 0 < o.confirmed + o.checkedIn → o.confirmed = 0) ∧
        (100 < o.fillPercent → c.capacity < o.checkedIn)) := by
  obtain ⟨o, roster, agrees⟩ := Store.exists_roster stored
  refine ⟨o, Service.runOn_occupancy online roster, agrees.capacity, agrees.seated, agrees.active,
    fun balanced => ?_⟩
  exact ⟨agrees.checkedIn_eq balanced, agrees.isFull balanced, agrees.confirmed_eq_zero balanced,
    agrees.lt_checkedIn balanced⟩

namespace Sample

/-- The desk at which one child more has been checked in than the class has seats. -/
def overfullDesk : Desk :=
  { queueDesk with
    store := (queueDesk.store.addRegistration (early.checkedIn ⟨9⟩)).addRegistration
      { late with status := .confirmed, checkInAt := some ⟨9⟩ } }

/-- The roster of the overfull class has both of them, and the one who waits. -/
theorem roster_of_overfull_class :
    overfullDesk.online = true ∧ overfullDesk.store.classes.get? yoga.id = some yoga ∧
      overfullDesk.store.IsBalancedAt yoga ∧
      ∃ o, (runOn (Service.occupancy office yoga.id) overfullDesk).1 = .ok o ∧
        o.checkedIn = 2 ∧ o.waitlisted = 1 ∧ o.fillPercent = 200 ∧
        o.isFull = true ∧ o.confirmed = 0 ∧ yoga.capacity < o.checkedIn := by
  have stored : overfullDesk.store.classes.get? yoga.id = some yoga := rfl
  have balanced : overfullDesk.store.IsBalancedAt yoga := by decide
  obtain ⟨o, answer, -, -, -, adds⟩ := Desk.roster_adds_up office overfullDesk rfl stored
  obtain ⟨-, full, nobody, overfull⟩ := adds balanced
  -- what the desk answers can be computed
  obtain rfl : (⟨1, "Yoga", 1, 0, 1, 2⟩ : Occupancy) = o := Except.ok.inj answer
  exact ⟨rfl, stored, balanced, _, answer, rfl, rfl, rfl, full (by decide), nobody (by decide),
    overfull (by decide)⟩

end Sample

end EnrollmentDesk
