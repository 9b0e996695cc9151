import EnrollmentDesk.Seating
import Mathlib.Data.List.Nodup

/-!
# Who is due a seat

`Seating.plan` hands out the seats one after the other and counts those taken. For registrations
with distinct numbers the outcome has a closed form: the status that is *due* to an active
registration (`Seating.due`) depends on its *rank* alone, the number of active registrations that
are seated before it (`Seating.rank`). It is seated if it is anchored or its rank is below the
number of seats. The planner's count never enters: as long as seats are left everyone before has
taken one, and once they are gone only anchored registrations take more, and these come first
(`Seating.assign_eq_map`).

A rank is a count over the registrations, so it does not depend on their order, and it is easily
compared between a class before and after a change.

## Main statements

* `Seating.plan_changes` — the plan changes exactly those whose status is not the due one;
* `Seating.isNoop_iff` — a plan without changes says that everyone has the due status;
* `Seating.isNoop_iff_isFair` — this is the case exactly if the seats are given out fairly
  (`Seating.IsFair`): to those checked in, then in line, none left over and none too many.
-/

namespace EnrollmentDesk

/-! ### The line -/

theorem Instant.eq_iff_ticks {a b : Instant} : a = b ↔ a.ticks = b.ticks := by
  cases a; cases b; simp

namespace Registration

theorem inLine_iff {a b : Registration} : a.inLine b = true ↔
    a.createdAt.ticks < b.createdAt.ticks ∨
      (a.createdAt.ticks = b.createdAt.ticks ∧ a.id ≤ b.id) := by
  unfold inLine
  rw [Bool.or_eq_true, Bool.and_eq_true, decide_eq_true_iff, decide_eq_true_iff,
    decide_eq_true_iff, Instant.eq_iff_ticks]
  exact Iff.rfl

theorem isActive_of_status_eq_confirmed {r : Registration} (h : r.status = .confirmed) :
    r.isActive = true := by
  unfold isActive
  rw [h]
  rfl

theorem isActive_iff {r : Registration} :
    r.isActive = true ↔ r.status = .confirmed ∨ r.status = .waitlisted := by
  unfold isActive
  cases r.status <;> simp [Status.isActive]

theorem isActive_iff_ne_canceled {r : Registration} :
    r.isActive = true ↔ r.status ≠ .canceled := by
  unfold isActive
  cases r.status <;> simp [Status.isActive]

end Registration

namespace Seating

variable {rs : List Registration} {q r : Registration}

/-! ### The order of seating -/

/-- `q` is seated before `r`. -/
def precedes (q r : Registration) : Bool :=
  !before r q

theorem before_iff {a b : Registration} : before a b = true ↔
    (a.isAnchored = true ∧ b.isAnchored = false) ∨
      (a.isAnchored = b.isAnchored ∧ a.inLine b = true) := by
  unfold before
  cases a.isAnchored <;> cases b.isAnchored <;> simp

theorem before_total (a b : Registration) : before a b = true ∨ before b a = true := by
  rw [before_iff, before_iff, Registration.inLine_iff, Registration.inLine_iff]
  cases a.isAnchored <;> cases b.isAnchored <;> simp <;> omega

theorem before_trans (a b c : Registration) (hab : before a b = true) (hbc : before b c = true) :
    before a c = true := by
  rw [before_iff, Registration.inLine_iff] at *
  revert hab hbc
  cases a.isAnchored <;> cases b.isAnchored <;> cases c.isAnchored <;> simp <;> omega

theorem id_eq_of_before {a b : Registration} (hab : before a b = true) (hba : before b a = true) :
    a.id = b.id := by
  rw [before_iff, Registration.inLine_iff] at *
  revert hab hba
  cases a.isAnchored <;> cases b.isAnchored <;> simp <;> omega

theorem precedes_irrefl (r : Registration) : precedes r r = false := by
  have h := before_total r r
  simpa [precedes] using h

theorem precedes_asymm (h : precedes q r = true) : precedes r q = false := by
  have ht := before_total q r
  simp only [precedes, Bool.not_eq_true', Bool.not_eq_false'] at *
  exact ht.resolve_right (by rw [h]; simp)

theorem precedes_trans {p : Registration} (hpq : precedes p q = true) (hqr : precedes q r = true) :
    precedes p r = true := by
  have hpq' := before_total p q
  simp only [precedes, Bool.not_eq_true'] at *
  by_contra hne
  -- were `r` before `p`, it would be before `q` as well
  have hrp : before r p = true := by simpa using hne
  have hrq := before_trans r p q hrp (hpq'.resolve_right (by rw [hpq]; simp))
  rw [hrq] at hqr
  exact absurd hqr (by simp)

theorem precedes_of_before (hb : before q r = true) (hid : q.id ≠ r.id) : precedes q r = true := by
  simp only [precedes, Bool.not_eq_true']
  by_contra hne
  exact hid (id_eq_of_before hb (by simpa using hne))

theorem precedes_or_precedes (hid : q.id ≠ r.id) : precedes q r = true ∨ precedes r q = true :=
  (before_total q r).imp (fun h => precedes_of_before h hid)
    fun h => precedes_of_before h fun e => hid e.symm

/-- Those who are anchored are seated first. -/
theorem precedes_of_anchored (hq : q.isAnchored = true) (hr : r.isAnchored = false) :
    precedes q r = true := by
  have hb : ¬ before r q = true := by
    rw [before_iff, hq, hr]
    simp
  simpa [precedes] using hb

/-- Among those who are not anchored the line decides. -/
theorem precedes_iff_inLine (hq : q.isAnchored = false) (hr : r.isAnchored = false)
    (hid : q.id ≠ r.id) : precedes q r = true ↔ q.inLine r = true := by
  have hb : before r q = true ↔ r.inLine q = true := by
    rw [before_iff, hq, hr]
    simp
  have hne : (!before r q) = true ↔ ¬ r.inLine q = true := by
    rw [← hb]
    simp
  unfold precedes
  rw [hne, Registration.inLine_iff, Registration.inLine_iff]
  omega

theorem not_anchored_of_precedes (h : precedes q r = true) (hq : q.isAnchored = false) :
    r.isAnchored = false := by
  by_contra hne
  have hr : r.isAnchored = true := by simpa using hne
  rw [precedes_asymm (precedes_of_anchored hr hq)] at h
  exact absurd h (by simp)

/-- Distinct registrations are ordered strictly. -/
theorem pairwise_order (distinct : (rs.map Registration.id).Nodup) :
    (order rs).Pairwise fun a b => precedes a b = true := by
  have sorted : (order rs).Pairwise fun a b => before a b = true :=
    pairwise_sortBy before_total before_trans _
  -- sorted in the weak order; distinct numbers make it strict
  have apart : ((order rs).map Registration.id).Nodup := by
    have hperm : (order rs).Perm (rs.filter Registration.isActive) := sortBy_perm _ _
    rw [(hperm.map _).nodup_iff]
    exact (List.filter_sublist.map _).nodup distinct
  rw [List.nodup_iff_pairwise_ne, List.pairwise_map] at apart
  exact sorted.and apart |>.imp fun h => precedes_of_before h.1 h.2

@[simp] theorem mem_order : r ∈ order rs ↔ r ∈ rs ∧ r.isActive = true := by
  unfold order
  rw [mem_sortBy, List.mem_filter]

/-- The order of seating depends only on who is active. -/
theorem order_eq_of_perm {rs' : List Registration} (distinct : (rs.map Registration.id).Nodup)
    (h : (rs'.filter Registration.isActive).Perm (rs.filter Registration.isActive)) :
    order rs' = order rs := by
  have hperm : (order rs').Perm (order rs) :=
    (sortBy_perm _ _).trans (h.trans (sortBy_perm _ _).symm)
  -- two sorted lists of the same registrations, and ties are decided by the number
  refine List.Perm.eq_of_pairwise ?_ (pairwise_sortBy before_total before_trans _)
    (pairwise_sortBy before_total before_trans _) hperm
  intro a b ha hb hab hba
  have ha' := (mem_order.1 (hperm.mem_iff.1 ha)).1
  exact List.inj_on_of_nodup_map distinct ha' (mem_order.1 hb).1 (id_eq_of_before hab hba)

/-! ### Ranks -/

/-- How many active registrations are seated before `r`. -/
def rank (rs : List Registration) (r : Registration) : Nat :=
  rs.countP fun q => q.isActive && precedes q r

/-- The status that is due to an active registration. -/
def due (capacity : Int) (rs : List Registration) (r : Registration) : Status :=
  target capacity.toNat (rank rs r) r

theorem target_eq_confirmed_iff {seats taken : Nat} :
    target seats taken r = .confirmed ↔ r.isAnchored = true ∨ taken < seats := by
  unfold target
  simp only [Bool.or_eq_true, decide_eq_true_eq]
  split
  · next h => exact ⟨fun _ => h, fun _ => rfl⟩
  · next h => exact ⟨fun e => (nomatch e), fun e => absurd e h⟩

theorem target_eq_or {seats taken : Nat} :
    target seats taken r = .confirmed ∨ target seats taken r = .waitlisted := by
  unfold target
  split
  · exact .inl rfl
  · exact .inr rfl

theorem due_eq_confirmed_iff {capacity : Int} :
    due capacity rs r = .confirmed ↔ r.isAnchored = true ∨ rank rs r < capacity.toNat :=
  target_eq_confirmed_iff

theorem due_eq_or (capacity : Int) (rs : List Registration) (r : Registration) :
    due capacity rs r = .confirmed ∨ due capacity rs r = .waitlisted :=
  target_eq_or

theorem due_eq_waitlisted_iff {capacity : Int} :
    due capacity rs r = .waitlisted ↔ r.isAnchored = false ∧ capacity.toNat ≤ rank rs r := by
  have hnot : due capacity rs r = .waitlisted ↔ ¬ due capacity rs r = .confirmed := by
    rcases due_eq_or capacity rs r with h | h <;> rw [h] <;> decide
  rw [hnot, due_eq_confirmed_iff, not_or, Bool.not_eq_true, Nat.not_lt]

theorem rank_perm {rs' : List Registration} (h : rs.Perm rs') (r : Registration) :
    rank rs r = rank rs' r :=
  h.countP_eq _

/-- A count grows if its condition gets weaker and a new element meets it. -/
theorem countP_lt_countP {α : Type} {p p' : α → Bool} {l : List α} {a : α} (ha : a ∈ l)
    (hp : p a = false) (hp' : p' a = true) (himp : ∀ x ∈ l, p x = true → p' x = true) :
    l.countP p < l.countP p' := by
  obtain ⟨s, t, rfl⟩ := List.append_of_mem ha
  -- the new element stands between two parts in which the count does not fall
  have hs : s.countP p ≤ s.countP p' := List.countP_mono_left fun x hx => himp x (by simp [hx])
  have ht : t.countP p ≤ t.countP p' := List.countP_mono_left fun x hx => himp x (by simp [hx])
  rw [List.countP_append, List.countP_append, List.countP_cons, List.countP_cons, hp, hp']
  simp only [Bool.false_eq_true, if_false, if_true]
  omega

theorem rank_lt (hq : q ∈ rs) (active : q.isActive = true) (h : precedes q r = true) :
    rank rs q < rank rs r := by
  refine countP_lt_countP hq ?_ ?_ fun p _ hp => ?_
  · rw [precedes_irrefl, Bool.and_false]
  · rw [active, h]
    rfl
  · rw [Bool.and_eq_true] at hp ⊢
    exact ⟨hp.1, precedes_trans hp.2 h⟩

theorem rank_lt_countP (hr : r ∈ rs) (active : r.isActive = true) :
    rank rs r < rs.countP Registration.isActive := by
  refine countP_lt_countP hr ?_ active fun p _ hp => ?_
  · rw [precedes_irrefl, Bool.and_false]
  · rw [Bool.and_eq_true] at hp
    exact hp.1

/-- Everyone anchored is seated before someone who is not. -/
theorem countP_anchored_le_rank (hr : r.isAnchored = false) :
    (rs.countP fun q => q.isActive && q.isAnchored) ≤ rank rs r := by
  refine List.countP_mono_left fun q _ hq => ?_
  rw [Bool.and_eq_true] at hq ⊢
  exact ⟨hq.1, precedes_of_anchored hq.2 hr⟩

/-! ### The plan in closed form -/

theorem rank_order (r : Registration) :
    (order rs).countP (fun q => precedes q r) = rank rs r := by
  unfold order rank
  rw [(sortBy_perm _ _).countP_eq, List.countP_filter]
  refine List.countP_congr fun q _ => ?_
  rw [Bool.and_comm]

/-- Seats handed out one after the other, to those in strict order: what everyone gets depends on
how many stand before. -/
theorem assign_eq_map (seats taken : Nat) {l : List Registration}
    (sorted : l.Pairwise fun a b => precedes a b = true) :
    assign seats taken l =
      l.map fun r => (r, target seats (taken + l.countP fun q => precedes q r) r) := by
  induction l generalizing taken with
  | nil => rfl
  | cons a l ih =>
    obtain ⟨first, rest⟩ := List.pairwise_cons.1 sorted
    -- the first has rank zero, and counts once in every other rank
    have none_before : (a :: l).countP (fun q => precedes q a) = 0 := by
      rw [List.countP_eq_zero]
      intro q hq
      rcases List.mem_cons.1 hq with rfl | hq
      · simp [precedes_irrefl]
      · simp [precedes_asymm (first q hq)]
    have one_more : ∀ r ∈ l,
        (a :: l).countP (fun q => precedes q r) = l.countP (fun q => precedes q r) + 1 :=
      fun r hr => List.countP_cons_of_pos (first r hr)
    rw [assign, List.map_cons, none_before, Nat.add_zero, ih _ rest]
    congr 1
    refine List.map_congr_left fun r hr => ?_
    rw [one_more r hr]
    congr 1
    by_cases ha : target seats taken a = .confirmed
    · -- `a` takes a seat, and stands before everyone else
      rw [if_pos ha]
      congr 1
      omega
    · -- the seats are gone, so no one behind `a` gets one
      rw [if_neg ha]
      rw [target_eq_confirmed_iff, not_or, Bool.not_eq_true] at ha
      have hr' : r.isAnchored = false := not_anchored_of_precedes (first r hr) ha.1
      have hno : ∀ n, target seats (taken + n) r ≠ .confirmed := by
        intro n
        rw [ne_eq, target_eq_confirmed_iff, hr']
        simp
        omega
      rw [target_eq_or.resolve_left (hno _), target_eq_or.resolve_left (hno _)]

theorem assign_order (capacity : Int) (distinct : (rs.map Registration.id).Nodup) :
    assign capacity.toNat 0 (order rs) = (order rs).map fun r => (r, due capacity rs r) := by
  rw [assign_eq_map _ _ (pairwise_order distinct)]
  refine List.map_congr_left fun r _ => ?_
  rw [rank_order, Nat.zero_add]
  rfl

theorem plan_assignments (capacity : Int) (distinct : (rs.map Registration.id).Nodup) :
    (plan capacity rs).assignments = (order rs).map fun r => (r.id, due capacity rs r) := by
  unfold plan
  rw [assign_order capacity distinct]
  simp

theorem plan_eq_of_perm (capacity : Int) {rs' : List Registration}
    (distinct : (rs.map Registration.id).Nodup) (h : rs'.Perm rs) :
    plan capacity rs' = plan capacity rs := by
  unfold plan
  rw [order_eq_of_perm distinct (h.filter _)]

/-- The changes that give everyone in a list a status, in the order of the list. -/
def changesTo (status : Registration → Status) (l : List Registration) : List Change :=
  l.filterMap fun r => change? r (status r)

section ChangesTo

variable {status : Registration → Status} {l : List Registration}

theorem changesTo_cons_of_eq (h : r.status = status r) :
    changesTo status (r :: l) = changesTo status l := by
  unfold changesTo
  rw [List.filterMap_cons, change?, if_pos h]

theorem changesTo_cons_of_ne (h : r.status ≠ status r) :
    changesTo status (r :: l) = ⟨r.id, r.status, status r⟩ :: changesTo status l := by
  unfold changesTo
  rw [List.filterMap_cons, change?, if_neg h]

theorem mem_changesTo {c : Change} : c ∈ changesTo status l ↔
    ∃ r ∈ l, r.status ≠ status r ∧ c = ⟨r.id, r.status, status r⟩ := by
  unfold changesTo
  rw [List.mem_filterMap]
  refine exists_congr fun r => and_congr_right fun _ => ?_
  unfold change?
  split
  · next h => exact ⟨fun e => (nomatch e), fun e => absurd h e.1⟩
  · next h => exact ⟨fun e => ⟨h, (Option.some.inj e).symm⟩, fun e => congrArg some e.2.symm⟩

end ChangesTo

/-- **The changes of a plan** are those who do not have the status due to them. -/
theorem plan_changes (capacity : Int) (distinct : (rs.map Registration.id).Nodup) :
    (plan capacity rs).changes = changesTo (due capacity rs) (order rs) := by
  unfold plan changesTo
  rw [assign_order capacity distinct]
  simp only [List.filterMap_map]
  rfl

/-- **A plan without changes** says that everyone has the status due to them. -/
theorem isNoop_iff {capacity : Int} (distinct : (rs.map Registration.id).Nodup) :
    (plan capacity rs).isNoop = true ↔
      ∀ r ∈ rs, r.isActive = true → r.status = due capacity rs r := by
  unfold Plan.isNoop
  rw [plan_changes capacity distinct, List.isEmpty_iff, List.eq_nil_iff_forall_not_mem]
  constructor
  · intro h r hr active
    by_contra hne
    exact h _ (mem_changesTo.2 ⟨r, mem_order.2 ⟨hr, active⟩, hne, rfl⟩)
  · intro h c hc
    obtain ⟨r, hr, hne, -⟩ := mem_changesTo.1 hc
    obtain ⟨hmem, active⟩ := mem_order.1 hr
    exact hne (h r hmem active)

/-! ### Fairness -/

/-- The seats of a class are given out fairly. -/
structure IsFair (capacity : Int) (rs : List Registration) : Prop where
  /-- Who has been checked in sits. -/
  anchored_sit : ∀ r ∈ rs, r.isActive = true → r.isAnchored = true → r.status = .confirmed
  /-- As many sit as there are seats and people for them, or as have been checked in, if these are
  more. -/
  count : (rs.countP fun r => r.status = .confirmed) =
    max (rs.countP fun r => r.isActive && r.isAnchored)
      (min capacity.toNat (rs.countP Registration.isActive))
  /-- Nobody sits while someone waits who came earlier. -/
  in_line : ∀ r ∈ rs, r.isAnchored = false → r.status = .confirmed →
    ∀ q ∈ rs, q.isActive = true → q.isAnchored = false → q.inLine r = true → q.status = .confirmed

/-- Seats handed out to the anchored first: every seat is used that someone can take. -/
theorem countP_assign (seats taken : Nat) {l : List Registration}
    (sorted : l.Pairwise fun a b => precedes a b = true) :
    taken + ((assign seats taken l).countP fun a => a.2 = .confirmed) =
      max (taken + l.countP Registration.isAnchored) (min seats (taken + l.length)) := by
  induction l generalizing taken with
  | nil =>
    simp only [assign, List.countP_nil, List.length_nil]
    omega
  | cons a l ih =>
    obtain ⟨first, rest⟩ := List.pairwise_cons.1 sorted
    rw [assign, List.countP_cons, List.countP_cons, List.length_cons]
    by_cases ha : target seats taken a = .confirmed
    · have h := ih (taken + 1) rest
      rw [if_pos ha]
      simp only [ha, decide_true, if_true]
      rw [target_eq_confirmed_iff] at ha
      split
      · omega
      · next hna =>
        -- nobody behind `a` is anchored, and a seat was left for `a`
        have hl : l.countP Registration.isAnchored = 0 := by
          rw [List.countP_eq_zero]
          intro r hr
          rw [not_anchored_of_precedes (first r hr) (by simpa using hna)]
          exact Bool.false_ne_true
        have hlt : taken < seats := ha.resolve_left hna
        omega
    · -- `a` gets no seat, so no seat is left and nobody behind is anchored
      have h := ih taken rest
      rw [if_neg ha]
      simp only [ha, decide_false, Bool.false_eq_true, if_false]
      rw [target_eq_confirmed_iff, not_or, Bool.not_eq_true] at ha
      have hl : l.countP Registration.isAnchored = 0 := by
        rw [List.countP_eq_zero]
        intro r hr
        rw [not_anchored_of_precedes (first r hr) ha.1]
        exact Bool.false_ne_true
      rw [ha.1]
      simp only [Bool.false_eq_true, if_false]
      omega

/-- How many are due a seat. -/
theorem countP_due (capacity : Int) (distinct : (rs.map Registration.id).Nodup) :
    ((order rs).countP fun r => due capacity rs r = .confirmed) =
      max (rs.countP fun r => r.isActive && r.isAnchored)
        (min capacity.toNat (rs.countP Registration.isActive)) := by
  have h := countP_assign capacity.toNat 0 (pairwise_order distinct)
  rw [assign_order capacity distinct, List.countP_map] at h
  have hperm : (order rs).Perm (rs.filter Registration.isActive) := sortBy_perm _ _
  have hanch : (order rs).countP Registration.isAnchored =
      rs.countP fun r => r.isActive && r.isAnchored := by
    rw [hperm.countP_eq, List.countP_filter]
    exact List.countP_congr fun r _ => by rw [Bool.and_comm]
  have hlen : (order rs).length = rs.countP Registration.isActive := by
    rw [hperm.length_eq, List.countP_eq_length_filter]
  rw [hanch, hlen] at h
  simpa [Function.comp_def] using h

theorem IsFair.of_isNoop {capacity : Int} (distinct : (rs.map Registration.id).Nodup)
    (h : (plan capacity rs).isNoop = true) : IsFair capacity rs := by
  rw [isNoop_iff distinct] at h
  refine ⟨fun r hr active anchored => ?_, ?_, ?_⟩
  · rw [h r hr active, due_eq_confirmed_iff]
    exact .inl anchored
  · have hperm : (order rs).Perm (rs.filter Registration.isActive) := sortBy_perm _ _
    -- those who sit are those who are due a seat
    rw [← countP_due capacity distinct, hperm.countP_eq, List.countP_filter]
    refine List.countP_congr fun r hr => ?_
    simp only [Bool.and_eq_true, decide_eq_true_eq]
    constructor
    · intro hc
      have active := Registration.isActive_of_status_eq_confirmed hc
      exact ⟨h r hr active ▸ hc, active⟩
    · rintro ⟨hd, active⟩
      rw [h r hr active, hd]
  · intro r hr hra hrc q hq active hqa hline
    by_cases hid : q.id = r.id
    · rw [List.inj_on_of_nodup_map distinct hq hr hid, hrc]
    · rw [h q hq active, due_eq_confirmed_iff]
      have ractive := Registration.isActive_of_status_eq_confirmed hrc
      rw [h r hr ractive, due_eq_confirmed_iff, hra] at hrc
      -- `q` has the smaller rank, and that of `r` was small enough
      have hlt := rank_lt hq active ((precedes_iff_inLine hqa hra hid).2 hline)
      have hr' := hrc.resolve_left Bool.false_ne_true
      exact .inr (by omega)

section Fair

variable {capacity : Int} (fair : IsFair capacity rs) (hr : r ∈ rs)
  (distinct : (rs.map Registration.id).Nodup) (absent : r.isAnchored = false)

include fair hr distinct absent

/-- Who sits without being anchored has only people before them who sit as well. -/
theorem IsFair.rank_lt_of_confirmed (sits : r.status = .confirmed) :
    rank rs r < rs.countP fun q => q.status = .confirmed := by
  refine countP_lt_countP hr ?_ (by simpa using sits) fun q hq hp => ?_
  · rw [precedes_irrefl, Bool.and_false]
  rw [Bool.and_eq_true] at hp
  rw [decide_eq_true_iff]
  cases hqa : q.isAnchored with
  | true => exact fair.anchored_sit q hq hp.1 hqa
  | false =>
    have hid : q.id ≠ r.id := by
      intro hid
      rw [List.inj_on_of_nodup_map distinct hq hr hid, precedes_irrefl] at hp
      exact absurd hp.2 Bool.false_ne_true
    have before := (precedes_iff_inLine hqa absent hid).1 hp.2
    exact fair.in_line r hr absent sits q hq hp.1 hqa before

/-- Everyone who sits comes before someone who waits. -/
theorem IsFair.precedes_of_confirmed (waits : r.status = .waitlisted) (hq : q ∈ rs)
    (sits : q.status = .confirmed) : precedes q r = true := by
  cases hqa : q.isAnchored with
  | true => exact precedes_of_anchored hqa absent
  | false =>
    have active : r.isActive = true := Registration.isActive_iff.2 (.inr waits)
    have hid : r.id ≠ q.id := by
      intro hid
      rw [← List.inj_on_of_nodup_map distinct hr hq hid, waits] at sits
      exact nomatch sits
    -- were `r` before `q`, it would sit like `q`
    refine (precedes_or_precedes hid).resolve_left fun hrq => ?_
    have before := (precedes_iff_inLine absent hqa hid).1 hrq
    have rsits := fair.in_line q hq hqa sits r hr active absent before
    exact nomatch waits.symm.trans rsits

/-- Who waits has everyone before them who sits. -/
theorem IsFair.countP_confirmed_le_rank (waits : r.status = .waitlisted) :
    (rs.countP fun q => q.status = .confirmed) ≤ rank rs r := by
  refine List.countP_mono_left fun q hq hc => ?_
  rw [decide_eq_true_iff] at hc
  rw [Bool.and_eq_true]
  exact ⟨Registration.isActive_of_status_eq_confirmed hc,
    fair.precedes_of_confirmed hr distinct absent waits hq hc⟩

end Fair

/-- In a fair class everyone has the status due to them. Otherwise too many sit, or too few. -/
theorem IsFair.status_eq_due {capacity : Int} (fair : IsFair capacity rs) (hr : r ∈ rs)
    (active : r.isActive = true) (distinct : (rs.map Registration.id).Nodup) :
    r.status = due capacity rs r := by
  have hcount := fair.count
  have hall := rank_lt_countP hr active
  cases hra : r.isAnchored with
  | true =>
    rw [fair.anchored_sit r hr active hra]
    exact (due_eq_confirmed_iff.2 (.inl hra)).symm
  | false =>
    have hanch : (rs.countP fun q => q.isActive && q.isAnchored) ≤ rank rs r :=
      countP_anchored_le_rank hra
    rcases Registration.isActive_iff.1 active with sits | waits
    · have hlt := fair.rank_lt_of_confirmed hr distinct hra sits
      rw [sits, eq_comm, due_eq_confirmed_iff]
      exact .inr (by omega)
    · have hle := fair.countP_confirmed_le_rank hr distinct hra waits
      rw [waits, eq_comm, due_eq_waitlisted_iff]
      exact ⟨hra, by omega⟩

/-- **A plan has no changes exactly if the seats are given out fairly.** -/
theorem isNoop_iff_isFair {capacity : Int} (distinct : (rs.map Registration.id).Nodup) :
    (plan capacity rs).isNoop = true ↔ IsFair capacity rs :=
  ⟨IsFair.of_isNoop distinct, fun fair =>
    (isNoop_iff distinct).2 fun _ hr active => fair.status_eq_due hr active distinct⟩

end Seating

end EnrollmentDesk
