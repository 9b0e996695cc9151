import EnrollmentDesk.Proofs.Balance
import EnrollmentDesk.Proofs.Plan

/-!
# Places on the waitlist

A family that waits is told its place, which is found by walking along the waitlist of the class
(`Store.position?`). It is one more than the number of those who wait and are ahead
(`Store.position?_eq`), since the list is in line and no two on it have the same number.

In a balanced class this is the same count that decides about seats. Everyone who sits comes before
everyone who waits, so the rank of somebody who waits is made up of all who sit and of those who
wait ahead (`Seating.IsFair.rank_of_waitlisted`). And there is a waitlist only if no seat is free
(`Store.IsBalancedAt.toNat_le_confirmedCount`), so who is first on it has the least rank that is not
seated.
-/

namespace EnrollmentDesk

/-! ### The line -/

namespace Registration

theorem inLine_total (a b : Registration) : a.inLine b = true ∨ b.inLine a = true := by
  rw [inLine_iff, inLine_iff]
  omega

theorem inLine_trans (a b c : Registration) (hab : a.inLine b = true) (hbc : b.inLine c = true) :
    a.inLine c = true := by
  rw [inLine_iff] at *
  omega

variable {a b : Registration}

/-- Who is in line before another, and is another, is ahead. -/
theorem IsAhead.of_inLine (h : a.inLine b = true) (hid : a.id ≠ b.id) : a.IsAhead b := by
  rw [inLine_iff] at h
  rw [isAhead_iff]
  omega

theorem IsAhead.inLine (h : a.IsAhead b) : a.inLine b = true := by
  rw [isAhead_iff] at h
  rw [inLine_iff]
  omega

theorem IsAhead.asymm (h : a.IsAhead b) : ¬ b.IsAhead a := by
  rw [isAhead_iff] at *
  omega

instance : Std.Asymm IsAhead where
  asymm _ _ := IsAhead.asymm

theorem IsAhead.irrefl (a : Registration) : ¬ a.IsAhead a :=
  fun h => h.asymm h

end Registration

namespace Seating

variable {rs l : List Registration} {r : Registration}

/-- In a list that is in line, the index of a registration is the number of those ahead of it. -/
theorem findIdx?_id_eq (sorted : l.Pairwise Registration.IsAhead)
    (distinct : (l.map Registration.id).Nodup) (hr : r ∈ l) :
    (l.findIdx? fun x => x.id == r.id) = some (l.countP fun q => q.IsAhead r) := by
  induction l with
  | nil => exact absurd hr List.not_mem_nil
  | cons a l ih =>
    obtain ⟨first, rest⟩ := List.pairwise_cons.1 sorted
    obtain ⟨hfirst, hrest⟩ := List.nodup_cons.1 (List.map_cons ▸ distinct)
    rw [List.findIdx?_cons]
    rcases List.mem_cons.1 hr with rfl | hr
    · -- everyone else is behind `r`
      have none_ahead : ((r :: l).countP fun q => q.IsAhead r) = 0 := by
        rw [List.countP_eq_zero]
        intro q hq
        rw [decide_eq_true_iff]
        rcases List.mem_cons.1 hq with rfl | hq
        · exact Registration.IsAhead.irrefl q
        · exact (first q hq).asymm
      rw [none_ahead, if_pos (beq_self_eq_true r.id)]
    · -- `a` is one more ahead
      have hid : a.id ≠ r.id := fun hid => hfirst (hid ▸ List.mem_map_of_mem hr)
      rw [if_neg (by simpa using hid), ih rest hrest hr,
        List.countP_cons_of_pos (by simpa using first r hr)]
      rfl

/-- How many wait that are ahead of `r`. -/
def waitingAhead (rs : List Registration) (r : Registration) : Nat :=
  rs.countP fun q => q.status = .waitlisted ∧ q.IsAhead r

section Fair

variable {capacity : Int} (fair : IsFair capacity rs) (hr : r ∈ rs)
  (distinct : (rs.map Registration.id).Nodup) (waits : r.status = .waitlisted)

include fair hr waits

/-- Who waits has not been checked in. -/
theorem IsFair.absent_of_waitlisted : r.isAnchored = false := by
  have active : r.isActive = true := Registration.isActive_iff.2 (.inr waits)
  by_contra present
  have sits := fair.anchored_sit r hr active (by simpa using present)
  exact nomatch waits.symm.trans sits

include distinct

/-- **Before somebody who waits** come all who sit, and those who wait ahead. -/
theorem IsFair.rank_of_waitlisted :
    rank rs r = (rs.countP fun q => q.status = .confirmed) + waitingAhead rs r := by
  have absent := fair.absent_of_waitlisted hr waits
  unfold rank waitingAhead
  rw [List.countP_eq_countP_filter_add rs _ fun q => decide (q.status = .confirmed),
    List.countP_filter, List.countP_filter]
  -- the active ones before `r` are counted apart, those who sit and those who do not
  congr 1
  · refine List.countP_congr fun q hq => ?_
    rw [Bool.and_eq_true, Bool.and_eq_true, decide_eq_true_iff]
    constructor
    · exact fun h => h.2
    · intro sits
      exact ⟨⟨Registration.isActive_of_status_eq_confirmed sits,
        fair.precedes_of_confirmed hr distinct absent waits hq sits⟩, sits⟩
  · refine List.countP_congr fun q hq => ?_
    rw [Bool.and_eq_true, Bool.and_eq_true, Bool.not_eq_true', decide_eq_false_iff_not,
      decide_eq_true_iff]
    constructor
    · rintro ⟨⟨active, before⟩, stands⟩
      have qwaits := (Registration.isActive_iff.1 active).resolve_left stands
      have qabsent := fair.absent_of_waitlisted hq qwaits
      exact ⟨qwaits, isAhead_of_precedes (qabsent.trans absent.symm) before⟩
    · rintro ⟨qwaits, ahead⟩
      have qabsent := fair.absent_of_waitlisted hq qwaits
      have hid : q.id ≠ r.id := by
        intro hid
        rw [List.inj_on_of_nodup_map distinct hq hr hid] at ahead
        exact ahead.asymm ahead
      refine ⟨⟨Registration.isActive_iff.2 (.inr qwaits), ?_⟩, ?_⟩
      · exact (precedes_iff_inLine qabsent absent hid).2 ahead.inLine
      · exact fun sits => nomatch qwaits.symm.trans sits

end Fair

end Seating

open Seating

namespace Store

variable {s : Store} {c : Class} {r : Registration}

/-! ### Positions -/

/-- Those who wait for a class, in line. -/
def waitlist (s : Store) (classId : Int) : List Registration :=
  (s.activeOf classId).filter fun x => x.status = .waitlisted

theorem mem_waitlist {classId : Int} :
    r ∈ s.waitlist classId ↔
      r ∈ s.registrations ∧ r.classId = classId ∧ r.status = .waitlisted := by
  unfold waitlist
  rw [List.mem_filter, mem_activeOf, decide_eq_true_iff]
  constructor
  · exact fun h => ⟨h.1.1, h.1.2.1, h.2⟩
  · exact fun h => ⟨⟨h.1, h.2.1, Registration.isActive_iff.2 (.inr h.2.2)⟩, h.2.2⟩

theorem nodup_activeOf (s : Store) (classId : Int) :
    ((s.activeOf classId).map Registration.id).Nodup := by
  rw [((s.activeOf_perm classId).map _).nodup_iff]
  exact (List.filter_sublist.map _).nodup (s.nodup_registrationsOf classId)

theorem pairwise_activeOf (s : Store) (classId : Int) :
    (s.activeOf classId).Pairwise Registration.IsAhead := by
  have sorted : (s.activeOf classId).Pairwise fun a b => a.inLine b = true :=
    pairwise_sortBy Registration.inLine_total Registration.inLine_trans _
  -- distinct numbers make the line strict
  have apart := s.nodup_activeOf classId
  rw [List.nodup_iff_pairwise_ne, List.pairwise_map] at apart
  exact (sorted.and apart).imp fun h => .of_inLine h.1 h.2

theorem nodup_waitlist (s : Store) (classId : Int) :
    ((s.waitlist classId).map Registration.id).Nodup :=
  (List.filter_sublist.map _).nodup (s.nodup_activeOf classId)

theorem pairwise_waitlist (s : Store) (classId : Int) :
    (s.waitlist classId).Pairwise Registration.IsAhead :=
  (s.pairwise_activeOf classId).sublist List.filter_sublist

theorem length_waitlist (s : Store) (classId : Int) :
    (s.waitlist classId).length =
      (s.registrationsOf classId).countP fun r => r.status = .waitlisted := by
  unfold waitlist
  rw [← List.countP_eq_length_filter, (s.activeOf_perm classId).countP_eq, List.countP_filter]
  refine List.countP_congr fun r _ => ?_
  rw [Bool.and_eq_true, decide_eq_true_iff]
  exact and_iff_left_of_imp fun waits => Registration.isActive_iff.2 (.inr waits)

theorem countP_waitlist (s : Store) (classId : Int) (r : Registration) :
    ((s.waitlist classId).countP fun q => q.IsAhead r) =
      waitingAhead (s.registrationsOf classId) r := by
  unfold waitlist waitingAhead
  rw [List.countP_filter, (s.activeOf_perm classId).countP_eq, List.countP_filter]
  refine List.countP_congr fun q _ => ?_
  simp only [Bool.and_eq_true, decide_eq_true_eq]
  constructor
  · exact fun h => ⟨h.1.2, h.1.1⟩
  · exact fun h => ⟨⟨h.2, h.1⟩, Registration.isActive_iff.2 (.inr h.1)⟩

/-- **The place on a waitlist** counts those who wait ahead, from one. -/
theorem position?_eq (hr : r ∈ s.registrations) (waits : r.status = .waitlisted) :
    s.position? r = some (waitingAhead (s.registrationsOf r.classId) r + 1) := by
  have hindex := findIdx?_id_eq (s.pairwise_waitlist r.classId) (s.nodup_waitlist r.classId)
    (mem_waitlist.2 ⟨hr, rfl, waits⟩)
  rw [countP_waitlist] at hindex
  unfold waitlist at hindex
  unfold position?
  rw [if_pos waits, hindex]
  rfl

/-- Only who waits has a place. -/
theorem position?_eq_none (sits : r.status ≠ .waitlisted) : s.position? r = none := by
  unfold position?
  rw [if_neg sits]

theorem waits_of_position? {k : Nat} (h : s.position? r = some k) : r.status = .waitlisted := by
  by_contra stands
  rw [position?_eq_none stands] at h
  exact nomatch h

/-- Somebody is first on a waitlist that is not empty. -/
theorem exists_first_waiting {classId : Int}
    (some_wait : ∃ r ∈ s.registrations, r.classId = classId ∧ r.status = .waitlisted) :
    ∃ w ∈ s.registrations, w.classId = classId ∧ w.status = .waitlisted ∧
      waitingAhead (s.registrationsOf classId) w = 0 := by
  obtain ⟨r, hr, place, waits⟩ := some_wait
  have listed : r ∈ s.waitlist classId := mem_waitlist.2 ⟨hr, place, waits⟩
  have sorted := s.pairwise_waitlist classId
  cases hlist : s.waitlist classId with
  | nil =>
    rw [hlist] at listed
    exact absurd listed List.not_mem_nil
  | cons w l =>
    rw [hlist] at sorted
    obtain ⟨first, -⟩ := List.pairwise_cons.1 sorted
    have hw : w ∈ s.waitlist classId := by
      rw [hlist]
      exact List.mem_cons_self
    obtain ⟨hw, hplace, hwaits⟩ := mem_waitlist.1 hw
    refine ⟨w, hw, hplace, hwaits, ?_⟩
    unfold waitingAhead
    rw [List.countP_eq_zero]
    intro q hq
    rw [decide_eq_true_iff]
    rintro ⟨qwaits, ahead⟩
    -- whoever waits is `w` or behind
    obtain ⟨hq, qplace⟩ := mem_registrationsOf.1 hq
    have qlisted : q ∈ s.waitlist classId := mem_waitlist.2 ⟨hq, qplace, qwaits⟩
    rw [hlist] at qlisted
    rcases List.mem_cons.1 qlisted with rfl | hq
    · exact Registration.IsAhead.irrefl q ahead
    · exact (first q hq).asymm ahead

/-- Who is first on a waitlist is ahead of the others on it. -/
theorem isAhead_of_first {w q : Registration} (hw : w ∈ s.registrations)
    (first : waitingAhead (s.registrationsOf w.classId) w = 0) (hq : q ∈ s.registrations)
    (place : q.classId = w.classId) (waits : q.status = .waitlisted) (hne : q ≠ w) :
    w.IsAhead q := by
  have hid : w.id ≠ q.id := fun hid => hne (Table.eq_of_key_eq hq hw hid.symm)
  have hline : w.inLine q = true := by
    refine (w.inLine_total q).resolve_right fun before => ?_
    have ahead : q.IsAhead w := .of_inLine before hid.symm
    unfold waitingAhead at first
    rw [List.countP_eq_zero] at first
    exact first q (mem_registrationsOf.2 ⟨hq, place⟩) (decide_eq_true ⟨waits, ahead⟩)
  exact .of_inLine hline hid

/-- Only one can be first on a waitlist. -/
theorem eq_of_first {w q : Registration} (hw : w ∈ s.registrations)
    (wwaits : w.status = .waitlisted)
    (wfirst : waitingAhead (s.registrationsOf w.classId) w = 0) (hq : q ∈ s.registrations)
    (place : q.classId = w.classId) (qwaits : q.status = .waitlisted)
    (qfirst : waitingAhead (s.registrationsOf w.classId) q = 0) : q = w := by
  by_contra hne
  have ahead : w.IsAhead q := isAhead_of_first hw wfirst hq place qwaits hne
  unfold waitingAhead at qfirst
  rw [List.countP_eq_zero] at qfirst
  exact qfirst w (mem_registrationsOf.2 ⟨hw, rfl⟩) (decide_eq_true ⟨wwaits, ahead⟩)

/-! ### Seats -/

theorem confirmedCount_eq (s : Store) (classId : Int) :
    s.confirmedCount classId =
      (s.registrationsOf classId).countP fun q => q.status = .confirmed := by
  unfold confirmedCount registrationsOf
  rw [List.countP_filter]
  refine List.countP_congr fun q _ => ?_
  simp only [Bool.and_eq_true, beq_iff_eq, decide_eq_true_eq]
  exact and_comm

section Balanced

variable (h : s.IsBalancedAt c)

include h

theorem IsBalancedAt.isFair : IsFair c.capacity (s.registrationsOf c.id) :=
  .of_isNoop (s.nodup_registrationsOf c.id) h

theorem IsBalancedAt.confirmedCount_eq :
    s.confirmedCount c.id = max
      ((s.registrationsOf c.id).countP fun r => r.isActive && r.isAnchored)
      (min c.capacity.toNat ((s.registrationsOf c.id).countP Registration.isActive)) := by
  rw [s.confirmedCount_eq, h.isFair.count]

variable (hr : r ∈ s.registrations) (place : r.classId = c.id) (waits : r.status = .waitlisted)

include hr place waits

/-- In a balanced class, the rank of who waits is made up of all who sit and those who wait
ahead. -/
theorem IsBalancedAt.rank_eq :
    rank (s.registrationsOf c.id) r =
      s.confirmedCount c.id + waitingAhead (s.registrationsOf c.id) r := by
  rw [s.confirmedCount_eq]
  exact h.isFair.rank_of_waitlisted (mem_registrationsOf.2 ⟨hr, place⟩)
    (s.nodup_registrationsOf c.id) waits

/-- In a balanced class nobody waits while a seat is free. -/
theorem IsBalancedAt.toNat_le_confirmedCount : c.capacity.toNat ≤ s.confirmedCount c.id := by
  obtain ⟨w, hw, wplace, wwaits, first⟩ := exists_first_waiting ⟨r, hr, place, waits⟩
  have active : w.isActive = true := Registration.isActive_iff.2 (.inr wwaits)
  have hdue := isBalancedAt_iff.1 h w hw wplace active
  rw [wwaits, eq_comm] at hdue
  -- the first who waits has all who sit before them, and is not due a seat
  calc c.capacity.toNat
    _ ≤ rank (s.registrationsOf c.id) w := (due_eq_waitlisted_iff.1 hdue).2
    _ = s.confirmedCount c.id + waitingAhead (s.registrationsOf c.id) w :=
        h.rank_eq hw wplace wwaits
    _ = s.confirmedCount c.id := by rw [first, Nat.add_zero]

end Balanced

end Store

end EnrollmentDesk
