import EnrollmentDesk.Proofs.Ranking
import Mathlib.Data.List.Sort

/-!
# A capacity moves the cut-off

A class has a room and a line. Who has been checked in is in the room and sits; of the others, who
stand in line, as many sit as seats are left, and these are the first of the line
(`Seating.due_of_mem_take`). So a capacity is a cut in the line, and to change it moves the cut and
nothing else. In a balanced class the part before the cut is what sits there now, and the part
behind it is the waitlist (`Store.IsBalancedAt.waitlist_eq`). A later cut therefore takes the first
of the waitlist, those with the places from one on, and an earlier cut takes the last of those who
sit.

How far the cut moves is not how far the capacity does. It cannot get behind the end of the line,
and a room with more people than seats leaves it at the beginning, whatever the capacity. What moves
is the number of seats that are taken (`Seating.filled`).

A rebalance changes no one's due status, so the old capacity leads back to the old statuses.
-/

namespace EnrollmentDesk

/-! ### Cut lists -/

section Cut

variable {α : Type} {p : α → Bool} {l : List α} {n : Nat}

theorem filter_eq_take (before : ∀ a ∈ l.take n, p a = true) (behind : ∀ a ∈ l.drop n, p a = false) :
    l.filter p = l.take n := by
  have hbehind : (l.drop n).filter p = [] :=
    List.filter_eq_nil_iff.2 fun a ha => Bool.eq_false_iff.1 (behind a ha)
  conv_lhs => rw [← List.take_append_drop n l]
  rw [List.filter_append, List.filter_eq_self.2 before, hbehind, List.append_nil]

theorem filter_eq_drop (before : ∀ a ∈ l.take n, p a = false) (behind : ∀ a ∈ l.drop n, p a = true) :
    l.filter p = l.drop n := by
  have hbefore : (l.take n).filter p = [] :=
    List.filter_eq_nil_iff.2 fun a ha => Bool.eq_false_iff.1 (before a ha)
  conv_lhs => rw [← List.take_append_drop n l]
  rw [List.filter_append, List.filter_eq_self.2 behind, hbefore, List.nil_append]

end Cut

namespace Seating

variable {rs : List Registration} {r : Registration} {capacity : Int}

/-! ### The line -/

/-- The active registrations that are not anchored, in the order of seating. -/
def line (rs : List Registration) : List Registration :=
  (order rs).filter fun r => !r.isAnchored

/-- How many are active and anchored. -/
def anchored (rs : List Registration) : Nat :=
  rs.countP fun r => r.isActive && r.isAnchored

/-- How many of the line get a seat, if it is long enough: as many as seats are left by those in the
room. -/
def cut (capacity : Int) (rs : List Registration) : Nat :=
  capacity.toNat - anchored rs

/-- How many seats are taken: as many as there are seats and people for them, or as have been
checked in, if these are more. -/
def filled (capacity : Int) (rs : List Registration) : Nat :=
  max (anchored rs) (min capacity.toNat (rs.countP Registration.isActive))

theorem mem_line : r ∈ line rs ↔ r ∈ rs ∧ r.isActive = true ∧ r.isAnchored = false := by
  unfold line
  rw [List.mem_filter, mem_order, Bool.not_eq_true', and_assoc]

theorem pairwise_line (distinct : (rs.map Registration.id).Nodup) :
    (line rs).Pairwise Registration.IsAhead :=
  (isSeating_plan 0 distinct).line_sorted

theorem room_append_line (distinct : (rs.map Registration.id).Nodup) :
    (order rs).filter Registration.isAnchored ++ line rs = order rs :=
  (eq_room_append_line (pairwise_order distinct)).symm

theorem length_room (rs : List Registration) :
    ((order rs).filter Registration.isAnchored).length = anchored rs := by
  rw [← List.countP_eq_length_filter]
  exact plan_anchored 0 rs

theorem countP_isActive (distinct : (rs.map Registration.id).Nodup) :
    rs.countP Registration.isActive = anchored rs + (line rs).length := by
  have hperm : (order rs).Perm (rs.filter Registration.isActive) := sortBy_perm _ _
  rw [List.countP_eq_length_filter, ← hperm.length_eq, ← room_append_line distinct,
    List.length_append, length_room]

/-- Seats are taken by the room, and by the line up to the cut. -/
theorem filled_eq (capacity : Int) (distinct : (rs.map Registration.id).Nodup) :
    filled capacity rs = anchored rs + min (cut capacity rs) (line rs).length := by
  unfold filled cut
  rw [countP_isActive distinct]
  omega

/-! ### The cut -/

/-- What is due to everyone, group by group: a seat in the room and in the line before the cut, and
none behind it. -/
theorem map_due_order (capacity : Int) (distinct : (rs.map Registration.id).Nodup) :
    ((order rs).map fun r => (r, due capacity rs r)) =
      ((order rs).filter Registration.isAnchored).map (fun r => (r, .confirmed)) ++
        (((line rs).take (cut capacity rs)).map (fun r => (r, .confirmed)) ++
          ((line rs).drop (cut capacity rs)).map fun r => (r, .waitlisted)) := by
  have present : ∀ r ∈ (order rs).filter Registration.isAnchored, r.isAnchored = true :=
    fun r hr => (List.mem_filter.1 hr).2
  have absent : ∀ r ∈ line rs, r.isAnchored = false := fun r hr => (mem_line.1 hr).2.2
  rw [← assign_order capacity distinct]
  conv_lhs => rw [← room_append_line distinct]
  rw [assign_room _ _ _ present, assign_line _ _ absent, length_room, Nat.zero_add]
  rfl

/-- The pairs tell what is due. -/
theorem due_of_mem_map {status : Status}
    (h : (r, status) ∈ (order rs).map fun r => (r, due capacity rs r)) :
    due capacity rs r = status := by
  obtain ⟨q, -, heq⟩ := List.mem_map.1 h
  obtain ⟨rfl, hdue⟩ := Prod.mk.inj heq
  exact hdue

theorem due_of_mem_take (distinct : (rs.map Registration.id).Nodup)
    (hr : r ∈ (line rs).take (cut capacity rs)) : due capacity rs r = .confirmed := by
  refine due_of_mem_map ?_
  rw [map_due_order capacity distinct]
  exact List.mem_append_right _ (List.mem_append_left _ (List.mem_map_of_mem hr))

theorem due_of_mem_drop (distinct : (rs.map Registration.id).Nodup)
    (hr : r ∈ (line rs).drop (cut capacity rs)) : due capacity rs r = .waitlisted := by
  refine due_of_mem_map ?_
  rw [map_due_order capacity distinct]
  exact List.mem_append_right _ (List.mem_append_right _ (List.mem_map_of_mem hr))

/-- Of the line from a place on, those up to the cut are due a seat. -/
theorem filter_due_drop (distinct : (rs.map Registration.id).Nodup) (n : Nat) :
    (((line rs).drop n).filter fun r => due capacity rs r = .confirmed) =
      ((line rs).drop n).take (cut capacity rs - n) := by
  refine filter_eq_take (fun r hr => ?_) fun r hr => ?_
  · rw [← List.drop_take] at hr
    exact decide_eq_true (due_of_mem_take distinct (List.mem_of_mem_drop hr))
  · have hr : r ∈ (line rs).drop (cut capacity rs) := by
      rw [List.drop_drop] at hr
      exact (List.drop_sublist_drop_left _ (by omega)).mem hr
    rw [due_of_mem_drop distinct hr]
    rfl

/-- Of the line up to a place, those behind the cut are not due a seat. -/
theorem filter_due_take (distinct : (rs.map Registration.id).Nodup) (n : Nat) :
    (((line rs).take n).filter fun r => due capacity rs r = .waitlisted) =
      ((line rs).take n).drop (cut capacity rs) := by
  refine filter_eq_drop (fun r hr => ?_) fun r hr => ?_
  · have hr : r ∈ (line rs).take (cut capacity rs) := by
      rw [List.take_take] at hr
      exact (List.take_sublist_take_left (by omega)).mem hr
    rw [due_of_mem_take distinct hr]
    rfl
  · rw [List.drop_take] at hr
    exact decide_eq_true (due_of_mem_drop distinct (List.mem_of_mem_take hr))

end Seating

open Seating

/-! ### A balanced class -/

namespace Store

variable {s : Store} {c : Class} {classId : Int} {r : Registration}

/-- Those who sit in a class without having been checked in, in line. -/
def sitting (s : Store) (classId : Int) : List Registration :=
  (s.activeOf classId).filter fun r => r.status = .confirmed ∧ r.isAnchored = false

/-- The line of a class. -/
def lineOf (s : Store) (classId : Int) : List Registration :=
  line (s.registrationsOf classId)

theorem mem_sitting : r ∈ s.sitting classId ↔ r ∈ s.registrations ∧ r.classId = classId ∧
    r.status = .confirmed ∧ r.isAnchored = false := by
  unfold sitting
  rw [List.mem_filter, mem_activeOf, decide_eq_true_iff]
  constructor
  · exact fun h => ⟨h.1.1, h.1.2.1, h.2⟩
  · intro h
    have active := Registration.isActive_of_status_eq_confirmed h.2.2.1
    exact ⟨⟨h.1, h.2.1, active⟩, h.2.2⟩

theorem pairwise_sitting (s : Store) (classId : Int) :
    (s.sitting classId).Pairwise Registration.IsAhead :=
  (s.pairwise_activeOf classId).sublist List.filter_sublist

theorem mem_lineOf : r ∈ s.lineOf classId ↔ r ∈ s.registrations ∧ r.classId = classId ∧
    r.isActive = true ∧ r.isAnchored = false := by
  unfold lineOf
  rw [mem_line, mem_registrationsOf, and_assoc]

theorem pairwise_lineOf (s : Store) (classId : Int) :
    (s.lineOf classId).Pairwise Registration.IsAhead :=
  pairwise_line (s.nodup_registrationsOf classId)

section Balanced

variable (h : s.IsBalancedAt c)

include h

theorem IsBalancedAt.due_of_mem_lineOf (hr : r ∈ s.lineOf c.id) :
    r.status = Seating.due c.capacity (s.registrationsOf c.id) r := by
  obtain ⟨stored, place, active, -⟩ := mem_lineOf.1 hr
  exact isBalancedAt_iff.1 h r stored place active

theorem IsBalancedAt.status_of_mem_take
    (hr : r ∈ (s.lineOf c.id).take (cut c.capacity (s.registrationsOf c.id))) :
    r.status = .confirmed :=
  (h.due_of_mem_lineOf (List.mem_of_mem_take hr)).trans
    (due_of_mem_take (s.nodup_registrationsOf c.id) hr)

theorem IsBalancedAt.status_of_mem_drop
    (hr : r ∈ (s.lineOf c.id).drop (cut c.capacity (s.registrationsOf c.id))) :
    r.status = .waitlisted :=
  (h.due_of_mem_lineOf (List.mem_of_mem_drop hr)).trans
    (due_of_mem_drop (s.nodup_registrationsOf c.id) hr)

/-- **Before the cut** are those who sit. -/
theorem IsBalancedAt.sitting_eq :
    s.sitting c.id = (s.lineOf c.id).take (cut c.capacity (s.registrationsOf c.id)) := by
  have listed : s.sitting c.id = (s.lineOf c.id).filter fun r => r.status = .confirmed := by
    refine List.Pairwise.eq_of_mem_iff (s.pairwise_sitting c.id)
      ((s.pairwise_lineOf c.id).sublist List.filter_sublist) fun r => ?_
    rw [mem_sitting, List.mem_filter, mem_lineOf, decide_eq_true_iff]
    constructor
    · rintro ⟨hr, place, sits, absent⟩
      exact ⟨⟨hr, place, Registration.isActive_of_status_eq_confirmed sits, absent⟩, sits⟩
    · rintro ⟨⟨hr, place, -, absent⟩, sits⟩
      exact ⟨hr, place, sits, absent⟩
  rw [listed]
  refine filter_eq_take (fun r hr => ?_) fun r hr => ?_
  · rw [h.status_of_mem_take hr]
    rfl
  · rw [h.status_of_mem_drop hr]
    rfl

/-- **Behind the cut** is the waitlist. -/
theorem IsBalancedAt.waitlist_eq :
    s.waitlist c.id = (s.lineOf c.id).drop (cut c.capacity (s.registrationsOf c.id)) := by
  have listed : s.waitlist c.id = (s.lineOf c.id).filter fun r => r.status = .waitlisted := by
    refine List.Pairwise.eq_of_mem_iff (s.pairwise_waitlist c.id)
      ((s.pairwise_lineOf c.id).sublist List.filter_sublist) fun r => ?_
    rw [mem_waitlist, List.mem_filter, mem_lineOf, decide_eq_true_iff]
    constructor
    · rintro ⟨hr, place, waits⟩
      have absent := h.isFair.absent_of_waitlisted (mem_registrationsOf.2 ⟨hr, place⟩) waits
      exact ⟨⟨hr, place, Registration.isActive_iff.2 (.inr waits), absent⟩, waits⟩
    · rintro ⟨⟨hr, place, -, -⟩, waits⟩
      exact ⟨hr, place, waits⟩
  rw [listed]
  refine filter_eq_drop (fun r hr => ?_) fun r hr => ?_
  · rw [h.status_of_mem_take hr]
    rfl
  · rw [h.status_of_mem_drop hr]
    rfl

/-- Who waits and is due a seat of another capacity: the first of the waitlist. -/
theorem IsBalancedAt.filter_waitlist (capacity : Int) :
    ((s.waitlist c.id).filter fun r =>
        Seating.due capacity (s.registrationsOf c.id) r = .confirmed) =
      (s.waitlist c.id).take
        (cut capacity (s.registrationsOf c.id) - cut c.capacity (s.registrationsOf c.id)) := by
  rw [h.waitlist_eq]
  exact filter_due_drop (s.nodup_registrationsOf c.id) _

/-- Who sits and is not due a seat of another capacity: the last of those who sit. -/
theorem IsBalancedAt.filter_sitting (capacity : Int) :
    ((s.sitting c.id).filter fun r =>
        Seating.due capacity (s.registrationsOf c.id) r = .waitlisted) =
      (s.sitting c.id).drop (cut capacity (s.registrationsOf c.id)) := by
  rw [h.sitting_eq]
  exact filter_due_take (s.nodup_registrationsOf c.id) _

/-- The cut moves by as many as there are more seats taken. -/
theorem IsBalancedAt.exists_take_waitlist {capacity : Int}
    (more : c.capacity.toNat ≤ capacity.toNat) :
    ∃ k, filled capacity (s.registrationsOf c.id) =
        filled c.capacity (s.registrationsOf c.id) + k ∧
      k ≤ (s.waitlist c.id).length ∧
      (s.waitlist c.id).take
          (cut capacity (s.registrationsOf c.id) - cut c.capacity (s.registrationsOf c.id)) =
        (s.waitlist c.id).take k := by
  have distinct := s.nodup_registrationsOf c.id
  have hlength : (s.waitlist c.id).length =
      (line (s.registrationsOf c.id)).length - cut c.capacity (s.registrationsOf c.id) := by
    rw [h.waitlist_eq, List.length_drop]
    rfl
  have hcut : cut c.capacity (s.registrationsOf c.id) ≤ cut capacity (s.registrationsOf c.id) :=
    Nat.sub_le_sub_right more _
  rw [filled_eq _ distinct, filled_eq _ distinct]
  refine ⟨min (cut capacity (s.registrationsOf c.id)) (line (s.registrationsOf c.id)).length -
    min (cut c.capacity (s.registrationsOf c.id)) (line (s.registrationsOf c.id)).length,
    by omega, by omega, ?_⟩
  rw [List.take_eq_take_iff]
  omega

theorem IsBalancedAt.exists_drop_sitting {capacity : Int}
    (fewer : capacity.toNat ≤ c.capacity.toNat) :
    ∃ k, filled c.capacity (s.registrationsOf c.id) =
        filled capacity (s.registrationsOf c.id) + k ∧
      k ≤ (s.sitting c.id).length ∧
      (s.sitting c.id).drop (cut capacity (s.registrationsOf c.id)) =
        (s.sitting c.id).drop ((s.sitting c.id).length - k) := by
  have distinct := s.nodup_registrationsOf c.id
  have hlength : (s.sitting c.id).length =
      min (cut c.capacity (s.registrationsOf c.id)) (line (s.registrationsOf c.id)).length := by
    rw [h.sitting_eq, List.length_take]
    rfl
  have hcut : cut capacity (s.registrationsOf c.id) ≤ cut c.capacity (s.registrationsOf c.id) :=
    Nat.sub_le_sub_right fewer _
  rw [filled_eq _ distinct, filled_eq _ distinct]
  refine ⟨min (cut c.capacity (s.registrationsOf c.id)) (line (s.registrationsOf c.id)).length -
    min (cut capacity (s.registrationsOf c.id)) (line (s.registrationsOf c.id)).length,
    by omega, by omega, ?_⟩
  rw [List.drop_eq_drop_iff]
  omega

end Balanced

/-- A balanced class that is rebalanced for another capacity, and then for its own, has the statuses
that it had. -/
theorem IsBalancedAt.status_seated_seated (h : s.IsBalancedAt c) {k : Class} (same : k.id = c.id)
    (now now' : Instant) (id : Int) :
    (((s.seated k now).seated c now').registrations.get? id).map Registration.status =
      (s.registrations.get? id).map Registration.status := by
  rw [get?_seated, get?_seated]
  cases hget : s.registrations.get? id with
  | none => rfl
  | some r =>
    simp only [Option.map_some]
    refine congrArg some ?_
    by_cases inClass : r.classId = c.id ∧ r.isActive = true
    · obtain ⟨place, active⟩ := inClass
      have place' : (s.seatedRow k now r).classId = c.id := (s.seatedRow_classId k now r).trans place
      have active' : (s.seatedRow k now r).isActive = true :=
        (s.seatedRow_isActive k now r).trans active
      calc ((s.seated k now).seatedRow c now' (s.seatedRow k now r)).status
        _ = (s.seated k now).due c (s.seatedRow k now r) := seatedRow_status place' active'
        -- the rebalance between has changed no one's due status
        _ = s.due c r := s.due_seated k now c r
        _ = r.status := (isBalancedAt_iff.1 h r (Table.mem_of_get? hget) place active).symm
    · unfold seatedRow
      rw [same, if_neg inClass, if_neg inClass]

/-- A rebalance that gives all those a status who do not have the one due. -/
theorem get?_seated_of_moved {moved : List Registration} {status : Status}
    (differ : ∀ r ∈ s.registrations, r ∈ moved ↔
      r.classId = c.id ∧ r.isActive = true ∧ r.status ≠ s.due c r)
    (same : ∀ r ∈ moved, s.due c r = status) (now : Instant) (id : Int) :
    (s.seated c now).registrations.get? id = (s.registrations.get? id).map fun r =>
      if r ∈ moved then { r with status, updatedAt := now } else r := by
  rw [get?_seated]
  cases hget : s.registrations.get? id with
  | none => rfl
  | some r =>
    have hr := Table.mem_of_get? hget
    rw [Option.map_some, Option.map_some]
    split
    · next hmem =>
      obtain ⟨place, active, differs⟩ := (differ r hr).1 hmem
      rw [seatedRow_of_ne place active differs, same r hmem]
    · next hmem =>
      refine congrArg some (seatedRow_of_eq fun place active => by_contra fun differs => ?_)
      exact hmem ((differ r hr).2 ⟨place, active, differs⟩)

end Store

/-! ### Another capacity -/

namespace Edit

variable {c : Class} {s : Store} (h : s.IsBalancedAt c) {capacity : Int} (now : Instant)

/-- What is due to everyone depends on the capacity and on who is there, and it is only the capacity
that has changed. -/
theorem due_setCapacity (c : Class) (s : Store) (capacity : Int) (now : Instant) :
    ((setCapacity capacity).apply c now s).due ((setCapacity capacity).classAfter c now) =
      Seating.due capacity (s.registrationsOf c.id) :=
  rfl

include h

/-- **Promoted by another capacity** are those of the waitlist between the two cuts, in line. -/
theorem promoted_setCapacity :
    (setCapacity capacity).promoted c now s =
      ((s.waitlist c.id).take (cut capacity (s.registrationsOf c.id) -
        cut c.capacity (s.registrationsOf c.id))).map fun w => { w with status := .confirmed } := by
  rw [← h.filter_waitlist]
  change (((order (s.registrationsOf c.id)).filter fun r => r.status = .waitlisted ∧
    Seating.due capacity (s.registrationsOf c.id) r = .confirmed).map fun r => _) = _
  congr 1
  have absent : ∀ {r : Registration}, r ∈ order (s.registrationsOf c.id) →
      r.status = .waitlisted → r.isAnchored = false := fun hr waits =>
    h.isFair.absent_of_waitlisted (mem_order.1 hr).1 waits
  refine List.Pairwise.eq_of_mem_iff ?_
    ((s.pairwise_waitlist c.id).sublist List.filter_sublist) fun r => ?_
  · -- those who wait are in line, where the order of seating is that of coming
    have sorted := pairwise_order (s.nodup_registrationsOf c.id)
    refine (sorted.sublist List.filter_sublist).imp_of_mem fun ha hb before => ?_
    obtain ⟨ha, hwa⟩ := List.mem_filter.1 ha
    obtain ⟨hb, hwb⟩ := List.mem_filter.1 hb
    have hwa := (of_decide_eq_true hwa).1
    have hwb := (of_decide_eq_true hwb).1
    exact isAhead_of_precedes ((absent ha hwa).trans (absent hb hwb).symm) before
  · rw [List.mem_filter, List.mem_filter, Tx.mem_order_registrationsOf, Store.mem_waitlist,
      decide_eq_true_iff, decide_eq_true_iff]
    constructor
    · rintro ⟨⟨hr, place, -⟩, waits, hdue⟩
      exact ⟨⟨hr, place, waits⟩, hdue⟩
    · rintro ⟨⟨hr, place, waits⟩, hdue⟩
      exact ⟨⟨hr, place, Registration.isActive_iff.2 (.inr waits)⟩, waits, hdue⟩

/-- **More seats** change the rows of those who are promoted, and no others. -/
theorem get?_result_of_more (more : c.capacity.toNat ≤ capacity.toNat) (id : Int) :
    ((setCapacity capacity).result c now s).registrations.get? id =
      (s.registrations.get? id).map fun r =>
        if r ∈ (s.waitlist c.id).take (cut capacity (s.registrationsOf c.id) -
            cut c.capacity (s.registrationsOf c.id))
        then { r with status := .confirmed, updatedAt := now } else r := by
  rw [← h.filter_waitlist]
  refine Store.get?_seated_of_moved (fun r hr => ?_) (fun r hr => ?_) now id
  · rw [List.mem_filter, Store.mem_waitlist, decide_eq_true_iff, due_setCapacity]
    constructor
    · rintro ⟨⟨-, place, waits⟩, hdue⟩
      refine ⟨place, Registration.isActive_iff.2 (.inr waits), ?_⟩
      rw [waits, hdue]
      decide
    · rintro ⟨place, active, differs⟩
      rcases Registration.isActive_iff.1 active with sits | waits
      · -- who sits has a rank below the old capacity, and so below the new
        have hdue := h.due_of_confirmed hr place sits
        unfold Store.due at hdue
        rw [due_eq_confirmed_iff] at hdue
        have hdue' : Seating.due capacity (s.registrationsOf c.id) r = .confirmed :=
          due_eq_confirmed_iff.2 (hdue.imp_right fun hlt => Nat.lt_of_lt_of_le hlt more)
        exact absurd (sits.trans hdue'.symm) differs
      · rw [waits] at differs
        exact ⟨⟨hr, place, waits⟩, (due_eq_or _ _ r).resolve_right differs.symm⟩
  · exact of_decide_eq_true (List.mem_filter.1 hr).2

/-- **Fewer seats** change the rows of the last of those who sit, and no others. -/
theorem get?_result_of_fewer (fewer : capacity.toNat ≤ c.capacity.toNat) (id : Int) :
    ((setCapacity capacity).result c now s).registrations.get? id =
      (s.registrations.get? id).map fun r =>
        if r ∈ (s.sitting c.id).drop (cut capacity (s.registrationsOf c.id))
        then { r with status := .waitlisted, updatedAt := now } else r := by
  rw [← h.filter_sitting]
  refine Store.get?_seated_of_moved (fun r hr => ?_) (fun r hr => ?_) now id
  · rw [List.mem_filter, Store.mem_sitting, decide_eq_true_iff, due_setCapacity]
    constructor
    · rintro ⟨⟨-, place, sits, -⟩, hdue⟩
      refine ⟨place, Registration.isActive_of_status_eq_confirmed sits, ?_⟩
      rw [sits, hdue]
      decide
    · rintro ⟨place, active, differs⟩
      rcases Registration.isActive_iff.1 active with sits | waits
      · rw [sits] at differs
        have hdue := (due_eq_or _ _ r).resolve_left differs.symm
        exact ⟨⟨hr, place, sits, (due_eq_waitlisted_iff.1 hdue).1⟩, hdue⟩
      · -- who waits has a rank above the old capacity, and so above the new
        have hdue := Store.isBalancedAt_iff.1 h r hr place active
        unfold Store.due at hdue
        rw [waits, eq_comm, due_eq_waitlisted_iff] at hdue
        have hdue' : Seating.due capacity (s.registrationsOf c.id) r = .waitlisted :=
          due_eq_waitlisted_iff.2 (hdue.imp_right (Nat.le_trans fewer))
        exact absurd (waits.trans hdue'.symm) differs
  · exact of_decide_eq_true (List.mem_filter.1 hr).2

/-- **The old capacity leads back to the old statuses.** -/
theorem status_result_set_back (capacity : Int) (now now' : Instant) (id : Int) :
    (((setCapacity c.capacity).result ((setCapacity capacity).classAfter c now) now'
        ((setCapacity capacity).result c now s)).registrations.get? id).map Registration.status =
      (s.registrations.get? id).map Registration.status :=
  h.status_seated_seated (k := (setCapacity capacity).classAfter c now) rfl now now' id

end Edit

/-! ### At the desk -/

/-- A capacity that is not negative is set, if nothing stands in the way of writing. -/
theorem Service.runOn_setCapacity (office : Office) {d : Desk} (alone : d.rival = none)
    (online : d.online = true) (commits : d.commitFails = false)
    (unlimited : d.store.writeBudget = none) {c : Class}
    (stored : d.store.classes.get? c.id = some c) {capacity : Int} (sound : 0 ≤ capacity) :
    ∃ t, runOn (setCapacity office c.id capacity) d =
        (.ok ((Edit.setCapacity capacity).promoted c d.now d.store), t) ∧
      t.store = ((Edit.setCapacity capacity).result c d.now d.store).committed
        ((Edit.setCapacity capacity).writes c d.now d.store) ∧
      t.rival = none ∧ t.online = true ∧ t.commitFails = false := by
  have checked : runOn (liftM (Enrollment.checkCapacity capacity) : Service Unit) d =
      (.ok ⟨⟩, d) := by
    unfold Enrollment.checkCapacity
    rw [if_neg (Int.not_lt.2 sound)]
    rfl
  have hsession := Enrollment.runOn_setCapacity (s := d.session) alone stored capacity
    (d.store.affords_of_unlimited unlimited _)
  obtain ⟨sent, hrun⟩ := runOn_perform_of_commits office online commits hsession
  unfold setCapacity
  rw [runOn_bind_ok checked]
  exact ⟨_, hrun, rfl, alone, online, commits⟩

/-- The list has those with the first so many places on the waitlist of a class, in order. -/
structure Store.ListsFirst (s : Store) (classId : Int) (k : Nat) (l : List Registration) :
    Prop where
  length : l.length = k
  place : ∀ i < k, ∃ w ∈ s.registrations, w.classId = classId ∧ s.position? w = some (i + 1) ∧
    l[i]? = some w

theorem Store.listsFirst_take {s : Store} {classId : Int} {k : Nat}
    (enough : k ≤ (s.waitlist classId).length) :
    s.ListsFirst classId k ((s.waitlist classId).take k) where
  length := by rw [List.length_take, Nat.min_eq_left enough]
  place i hi := by
    have hlt : i < (s.waitlist classId).length := Nat.lt_of_lt_of_le hi enough
    obtain ⟨hw, place, -⟩ := mem_waitlist.1 (List.getElem_mem hlt)
    have hplace := congrArg (·[i]?) (s.map_position?_waitlist classId)
    rw [List.getElem?_map, List.getElem?_map, List.getElem?_eq_getElem hlt,
      List.getElem?_range hlt] at hplace
    refine ⟨_, hw, place, Option.some.inj hplace, ?_⟩
    rw [List.getElem?_take_of_lt hi, List.getElem?_eq_getElem hlt]

/-- **A capacity moves the cut-off and nothing else.** When the capacity of a balanced class is set,
with a store that takes any number of writes, then how many seats are taken tells who is touched.
With more seats, nobody loses one, and those with the first places on the waitlist are promoted, in
order, as many as more seats are taken. With fewer, nobody is promoted, and as many as fewer seats
are taken go on the waitlist: the last in line of those who sit and have not been checked in. The
old capacity, if it can be set, then leads back to the old statuses. -/
theorem Desk.capacity_moves_cut_off (office : Office) (d : Desk) (alone : d.rival = none)
    (online : d.online = true) (commits : d.commitFails = false)
    (unlimited : d.store.writeBudget = none) {c : Class}
    (stored : d.store.classes.get? c.id = some c) (balanced : d.store.IsBalancedAt c)
    {capacity : Int} (sound : 0 ≤ capacity) :
    ∃ promoted t, runOn (Service.setCapacity office c.id capacity) d = (.ok promoted, t) ∧
      (max c.capacity 0 ≤ capacity → ∃ k first,
        filled capacity (d.store.registrationsOf c.id) =
          filled c.capacity (d.store.registrationsOf c.id) + k ∧
        d.store.ListsFirst c.id k first ∧
        promoted = first.map (fun w => { w with status := .confirmed }) ∧
        ∀ id, t.store.registrations.get? id = (d.store.registrations.get? id).map fun r =>
          if r ∈ first then { r with status := .confirmed, updatedAt := d.now } else r) ∧
      (capacity < max c.capacity 0 → ∃ k,
        filled c.capacity (d.store.registrationsOf c.id) =
          filled capacity (d.store.registrationsOf c.id) + k ∧
        promoted = [] ∧ k ≤ (d.store.sitting c.id).length ∧
        ∀ id, t.store.registrations.get? id = (d.store.registrations.get? id).map fun r =>
          if r ∈ (d.store.sitting c.id).drop ((d.store.sitting c.id).length - k)
          then { r with status := .waitlisted, updatedAt := d.now } else r) ∧
      (0 ≤ c.capacity → ∀ now, ∃ promoted' t',
        runOn (Service.setCapacity office c.id c.capacity) { t with now } = (.ok promoted', t') ∧
        ∀ id, (t'.store.registrations.get? id).map Registration.status =
          (d.store.registrations.get? id).map Registration.status) := by
  obtain ⟨t, hrun, hstore, talone, tonline, tcommits⟩ :=
    Service.runOn_setCapacity office alone online commits unlimited stored sound
  have hget : ∀ id, t.store.registrations.get? id =
      ((Edit.setCapacity capacity).result c d.now d.store).registrations.get? id := by
    intro id
    rw [hstore]
    rfl
  refine ⟨_, t, hrun, fun more => ?_, fun fewer => ?_, fun sound' now => ?_⟩
  · have more : c.capacity.toNat ≤ capacity.toNat := by omega
    obtain ⟨k, hfilled, enough, htake⟩ := balanced.exists_take_waitlist more
    refine ⟨k, _, hfilled, Store.listsFirst_take enough, ?_, fun id => ?_⟩
    · rw [Edit.promoted_setCapacity balanced, htake]
    · rw [hget, ← htake]
      exact Edit.get?_result_of_more balanced d.now more id
  · have fewer : capacity.toNat ≤ c.capacity.toNat := by omega
    obtain ⟨k, hfilled, enough, hdrop⟩ := balanced.exists_drop_sitting fewer
    refine ⟨k, hfilled, ?_, enough, fun id => ?_⟩
    · have hcut : cut capacity (d.store.registrationsOf c.id) -
          cut c.capacity (d.store.registrationsOf c.id) = 0 :=
        Nat.sub_eq_zero_of_le (Nat.sub_le_sub_right fewer _)
      rw [Edit.promoted_setCapacity balanced, hcut, List.take_zero, List.map_nil]
    · rw [hget, ← hdrop]
      exact Edit.get?_result_of_fewer balanced d.now fewer id
  · have unlimited' : t.store.writeBudget = none := by
      rw [hstore]
      exact congrArg (Option.map _) unlimited
    have stored' : t.store.classes.get? c.id =
        some ((Edit.setCapacity capacity).classAfter c d.now) := by
      rw [hstore]
      exact Edit.get?_apply (e := .setCapacity capacity) stored
    obtain ⟨t', hrun', hstore', -⟩ := Service.runOn_setCapacity office (d := { t with now })
      (c := (Edit.setCapacity capacity).classAfter c d.now) talone tonline tcommits unlimited'
      stored' sound'
    refine ⟨_, t', hrun', fun id => ?_⟩
    have back := Edit.status_result_set_back balanced capacity d.now now id
    rw [hstore']
    change ((((Edit.setCapacity c.capacity).result _ now t.store).registrations.get? id).map _) = _
    rw [hstore]
    exact back

/-- With a second seat the first of two who wait gets it, and gives it back with the old capacity. -/
theorem Sample.second_seat_for_late :
    queueDesk.rival = none ∧ queueDesk.online = true ∧ queueDesk.commitFails = false ∧
      queueDesk.store.writeBudget = none ∧ queueDesk.store.classes.get? yoga.id = some yoga ∧
      queueDesk.store.IsBalancedAt yoga ∧
      ∃ t, runOn (Service.setCapacity office yoga.id 2) queueDesk =
          (.ok [{ late with status := .confirmed }], t) ∧
        ∃ promoted' t', runOn (Service.setCapacity office yoga.id 1) { t with now := ⟨20⟩ } =
            (.ok promoted', t') ∧
          (t'.store.registrations.get? 2).map Registration.status = some .waitlisted := by
  have balanced : queueDesk.store.IsBalancedAt yoga := by decide
  refine ⟨rfl, rfl, rfl, rfl, rfl, balanced, ?_⟩
  obtain ⟨promoted, t, hrun, -, -, back⟩ := Desk.capacity_moves_cut_off office queueDesk rfl rfl
    rfl rfl (c := yoga) rfl balanced (by decide : (0 : Int) ≤ 2)
  obtain ⟨promoted', t', hrun', restored⟩ := back (by decide) ⟨20⟩
  have moved : (runOn (Service.setCapacity office yoga.id 2) queueDesk).1 =
      .ok [{ late with status := .confirmed }] := rfl
  rw [hrun] at moved
  obtain rfl := Except.ok.inj moved
  exact ⟨t, hrun, promoted', t', hrun', restored 2⟩

end EnrollmentDesk
