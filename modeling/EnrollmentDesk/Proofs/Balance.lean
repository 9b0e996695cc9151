import EnrollmentDesk.Proofs.Desk
import EnrollmentDesk.Proofs.Standing

/-!
# Every class stays balanced

A class is *balanced* if its plan has no changes, which is to say that its seats are given out
fairly (`Seating.IsFair`). Whatever the store, a class that has just been rebalanced is balanced,
since a rebalance does not change what is due to anyone. All operations end with a rebalance but
one: checking a child in takes it out of the line and puts it before everybody in it. Nothing is due
to anyone but before, for those who sit and are overtaken had a place left behind them, the one that
the child had.

## Main statements

* `Store.isBalancedAt_seated` — a rebalance balances the class;
* `Edit.isBalanced_result` — what an operation writes keeps all classes balanced;
* `Desk.run_balanced` — so every class is balanced after every run, and its seats are given out
  fairly; and whatever the store was, an operation balances the class it has rebalanced.
-/

namespace EnrollmentDesk

open Seating

namespace Store

/-- The plan for a class has no changes. -/
def IsBalancedAt (s : Store) (c : Class) : Prop :=
  (Seating.plan c.capacity (s.registrationsOf c.id)).isNoop = true

/-- The plan for no class has changes. -/
def IsBalanced (s : Store) : Prop :=
  ∀ c ∈ s.classes, s.IsBalancedAt c

instance (s : Store) (c : Class) : Decidable (s.IsBalancedAt c) :=
  inferInstanceAs (Decidable (_ = true))

instance (s : Store) : Decidable s.IsBalanced :=
  inferInstanceAs (Decidable (∀ c ∈ s.classes.rows, s.IsBalancedAt c))

variable {s : Store} {c : Class}

theorem isBalancedAt_iff : s.IsBalancedAt c ↔ ∀ r ∈ s.registrations, r.classId = c.id →
    r.isActive = true → r.status = s.due c r := by
  unfold IsBalancedAt
  rw [isNoop_iff (s.nodup_registrationsOf c.id)]
  constructor
  · exact fun h r hr place active => h r (mem_registrationsOf.2 ⟨hr, place⟩) active
  · intro h r hr active
    obtain ⟨hmem, place⟩ := mem_registrationsOf.1 hr
    exact h r hmem place active

/-- Who sits in a balanced class is due the seat. -/
theorem IsBalancedAt.due_of_confirmed (h : s.IsBalancedAt c) {r : Registration}
    (hr : r ∈ s.registrations) (place : r.classId = c.id) (sits : r.status = .confirmed) :
    s.due c r = .confirmed := by
  have active := Registration.isActive_of_status_eq_confirmed sits
  rw [← isBalancedAt_iff.1 h r hr place active, sits]

section Balanced

variable (h : s.IsBalancedAt c)

include h

theorem IsBalancedAt.changes_eq_nil : (s.plan c).changes = [] :=
  List.isEmpty_iff.1 h

/-- A rebalance of a balanced class leaves every row as it is. -/
theorem IsBalancedAt.seated_eq (now : Instant) : s.seated c now = s := by
  have hrows : s.registrations.mapRows (s.seatedRow c now) (s.seatedRow_id c now) =
      s.registrations := by
    ext id : 1
    rw [Table.get?_mapRows]
    cases hr : s.registrations.get? id with
    | none => rfl
    | some r =>
      rw [Option.map_some, seatedRow_of_eq]
      exact isBalancedAt_iff.1 h r (Table.mem_of_get? hr)
  unfold seated
  rw [hrows]
  rfl

/-- A rebalance of a balanced class promotes nobody. -/
theorem IsBalancedAt.promoted_eq_nil : s.promoted c = [] := by
  unfold promoted
  rw [List.map_eq_nil_iff, List.filter_eq_nil_iff]
  intro r hr
  obtain ⟨hmem, place, active⟩ := Tx.mem_order_registrationsOf.1 hr
  have hdue := isBalancedAt_iff.1 h r hmem place active
  -- who waits is due to wait
  rw [decide_eq_true_iff, ← hdue]
  rintro ⟨waits, sits⟩
  exact nomatch waits.symm.trans sits

end Balanced

/-- **A rebalance balances the class**, whatever the store. -/
theorem isBalancedAt_seated (s : Store) (c : Class) (now : Instant) :
    (s.seated c now).IsBalancedAt c := by
  rw [isBalancedAt_iff]
  intro r' hr' place active
  obtain ⟨r, hr, rfl⟩ := mem_seated.1 hr'
  rw [seatedRow_classId] at place
  rw [seatedRow_isActive] at active
  rw [seatedRow_status place active, due_seated]

/-- A rebalance of another class leaves a balanced class balanced. -/
theorem IsBalancedAt.seated_of_ne {k : Class} (h : s.IsBalancedAt k) (hk : k.id ≠ c.id)
    (now : Instant) : (s.seated c now).IsBalancedAt k := by
  rw [isBalancedAt_iff] at h ⊢
  intro r' hr' place active
  obtain ⟨r, hr, rfl⟩ := mem_seated.1 hr'
  rw [seatedRow_classId] at place
  rw [seatedRow_isActive] at active
  rw [due_seated, seatedRow_of_classId_ne (by rw [place]; exact hk)]
  exact h r hr place active

end Store

/-! ### Edits -/

namespace Edit

variable {e : Edit} {c : Class} {s : Store} {now : Instant}

/-- An edit of another class leaves a balanced class balanced. -/
theorem isBalancedAt_apply_of_ne (fits : e.Fits c s)
    (fresh : ∀ new, e = insert new → s.IsNumbered) (now : Instant) {k : Class} (hk : k.id ≠ c.id)
    (h : s.IsBalancedAt k) : (e.apply c now s).IsBalancedAt k := by
  unfold Store.IsBalancedAt at h ⊢
  rw [plan_eq_of_perm _ (s.nodup_registrationsOf k.id)
    (registrationsOf_apply_of_ne fits fresh now hk)]
  exact h

/-- A child that is checked in overtakes those who stood before it. They move back by one place; the
others stay where they are. -/
theorem rank_checkIn {r x : Registration} (fits : (checkIn r).Fits c s) (now : Instant)
    (absent : x.isAnchored = false) :
    rank (((checkIn r).apply c now s).registrationsOf c.id) x =
      if precedes r x then rank (s.registrationsOf c.id) x
      else rank (s.registrationsOf c.id) x + 1 := by
  have hrank := rank_apply fits (fun _ he => nomatch he) now x
  have active : r.isActive = true := by
    cases fits with
    | checkIn found place sits absent => exact Registration.isActive_of_status_eq_confirmed sits
  have hfirst : precedes (r.checkedIn now) x = true := precedes_of_anchored rfl absent
  -- checked in, it stands before everyone who is not
  have hnew : rank ((checkIn r).new now s) x = 1 := by
    rw [new, rank_singleton, hfirst, show (r.checkedIn now).isActive = true from active]
    rfl
  have hold : rank (checkIn r).old x = if precedes r x = true then 1 else 0 := by
    rw [old, rank_singleton, active, Bool.true_and]
  rw [hnew, hold] at hrank
  split at hrank
  · next hbehind =>
    rw [if_pos hbehind]
    omega
  · next hovertaken =>
    rw [if_neg hovertaken]
    omega

/-- When a child is checked in, the others of a balanced class are due what they were. -/
theorem due_checkIn {r x : Registration} (fits : (checkIn r).Fits c s) (h : s.IsBalancedAt c)
    (place : x.classId = c.id) (hx : x ∈ s.registrations)
    (active : x.isActive = true) (hid : x.id ≠ r.id) :
    ((checkIn r).apply c now s).due c x = s.due c x := by
  unfold Store.due Seating.due target
  cases hanchored : x.isAnchored with
  | true => rfl
  | false =>
    rw [rank_checkIn fits now hanchored]
    by_cases hbehind : precedes r x = true
    · rw [if_pos hbehind]
    · -- `x` is overtaken, and takes at most the place that the child had: it sat without being
      -- checked in, so a seat was due to it by its rank
      rw [if_neg hbehind]
      cases fits with
      | checkIn found place' sits absent =>
        have hdue := h.due_of_confirmed (Table.mem_of_get? found) place' sits
        have hseat := (due_eq_confirmed_iff.1 hdue).resolve_left
          (ne_of_eq_of_ne absent Bool.false_ne_true)
        have hbefore := (precedes_or_precedes hid).resolve_right hbehind
        have hlt := rank_lt (Store.mem_registrationsOf.2 ⟨hx, place⟩) active hbefore
        rw [decide_eq_true (show rank (s.registrationsOf c.id) x < c.capacity.toNat by omega),
          decide_eq_true (show rank (s.registrationsOf c.id) x + 1 < c.capacity.toNat by omega)]

theorem isBalancedAt_checkIn {r : Registration} (fits : (checkIn r).Fits c s)
    (h : s.IsBalancedAt c) :
    ((checkIn r).apply c now s).IsBalancedAt c := by
  rw [Store.isBalancedAt_iff]
  intro x hx place active
  rcases Table.mem_put.1 hx with rfl | ⟨hx, hid⟩
  · cases fits with
    | checkIn found place sits absent =>
      exact sits.trans (due_eq_confirmed_iff.2 (.inl rfl)).symm
  · rw [due_checkIn fits h place hx active hid]
    exact Store.isBalancedAt_iff.1 h x hx place active

theorem isBalancedAt_result (hr : e.reseats = true) (c : Class) (now : Instant) (s : Store) :
    (e.result c now s).IsBalancedAt (e.classAfter c now) := by
  unfold result
  rw [if_pos hr]
  exact Store.isBalancedAt_seated _ _ _

theorem classes_result (e : Edit) (c : Class) (now : Instant) (s : Store) :
    (e.result c now s).classes = (e.apply c now s).classes := by
  unfold result
  split <;> rfl

theorem classAfter_mem_result (stored : s.classes.get? c.id = some c) (e : Edit) (now : Instant) :
    e.classAfter c now ∈ (e.result c now s).classes := by
  rw [classes_result]
  exact Table.mem_of_get? (get?_apply stored)

theorem mem_classes_result (stored : s.classes.get? c.id = some c) {k : Class}
    (hk : k ∈ (e.result c now s).classes) :
    k = e.classAfter c now ∨ (k ∈ s.classes ∧ k.id ≠ c.id) := by
  have same : k ∈ s.classes → k = c ∨ (k ∈ s.classes ∧ k.id ≠ c.id) := by
    intro hk
    by_cases hid : k.id = c.id
    · exact .inl (Table.eq_of_key_eq hk (Table.mem_of_get? stored) hid)
    · exact .inr ⟨hk, hid⟩
  rw [classes_result] at hk
  cases e with
  | setCapacity capacity => exact Table.mem_put.1 hk
  | nothing => exact same hk
  | insert new => exact same hk
  | cancel r => exact same hk
  | checkIn r => exact same hk
  | delete r => exact same hk

/-- **What an operation writes keeps every class balanced.** -/
theorem isBalanced_result (stored : s.classes.get? c.id = some c) (fits : e.Fits c s)
    (fresh : ∀ new, e = insert new → s.IsNumbered) (h : s.IsBalanced) (now : Instant) :
    (e.result c now s).IsBalanced := by
  intro k hk
  -- the class of the edit is rebalanced, or is balanced still after a check-in; the others keep
  -- their registrations
  rcases mem_classes_result stored hk with rfl | ⟨hk, hid⟩
  · cases hr : e.reseats with
    | true => exact isBalancedAt_result hr c now s
    | false =>
      cases e with
      | checkIn r => exact isBalancedAt_checkIn fits (h c (Table.mem_of_get? stored))
      | nothing | insert | cancel | setCapacity | delete => exact nomatch hr
  · have happly := isBalancedAt_apply_of_ne fits fresh now hid (h k hk)
    unfold result
    split
    · exact happly.seated_of_ne (by rw [e.classAfter_id]; exact hid) now
    · exact happly

end Edit

/-! ### Runs -/

namespace Desk

variable {d : Desk}

theorem isBalanced_run (office : Office) (alone : d.rival = none) (balanced : d.store.IsBalanced)
    (numbered : d.store.IsNumbered) (events : List Event) :
    (run office d events).store.IsBalanced ∧ (run office d events).store.IsNumbered :=
  run_induction (P := fun s => s.IsBalanced ∧ s.IsNumbered) alone ⟨balanced, numbered⟩
    (fun _ _ h => h)
    (fun _ now _ _ _ asked h =>
      ⟨Edit.isBalanced_result asked.stored asked.fits (fun _ _ => h.2) h.1 now,
        Edit.isNumbered_result asked.fits h.2 now⟩) events

/-- **Every class is balanced after every run**, if all were at first, and its seats are given out
fairly. And whatever the store was, the class of an operation is balanced when it has been carried
out, unless the operation is a check-in. -/
theorem run_balanced (office : Office) (d : Desk) (alone : d.rival = none) :
    (d.store.IsBalanced → d.store.IsNumbered → ∀ events,
      (run office d events).store.IsBalanced ∧
      ∀ c ∈ (run office d events).store.classes,
        IsFair c.capacity ((run office d events).store.registrationsOf c.id)) ∧
    ∀ op : Operation, (∀ code, op ≠ .checkIn code) →
      op.carriedOut (runOn (op.perform office) d).1 = true →
      ∃ c e, op.Asks office.settings.enrollment d.now d.store c e ∧
        e.classAfter c d.now ∈ (runOn (op.perform office) d).2.store.classes ∧
        (runOn (op.perform office) d).2.store.IsBalancedAt (e.classAfter c d.now) := by
  constructor
  · intro balanced numbered events
    obtain ⟨hbal, -⟩ := isBalanced_run office alone balanced numbered events
    exact ⟨hbal, fun c hc => IsFair.of_isNoop (Store.nodup_registrationsOf _ _) (hbal c hc)⟩
  · intro op hop done
    obtain ⟨c, e, asked, hstore⟩ := Operation.store_of_carriedOut alone done
    rw [hstore]
    exact ⟨c, e, asked, Edit.classAfter_mem_result asked.stored e d.now,
      Edit.isBalancedAt_result (asked.reseats hop) c d.now d.store⟩

end Desk

/-- A cancellation, a check-in and a capacity that does not suffice leave the class balanced. -/
theorem Sample.yoga_stays_balanced :
    desk.rival = none ∧ desk.store.IsBalanced ∧ desk.store.IsNumbered ∧
      (Desk.run office desk [.operation (.cancelById 1), .operation (.checkIn "REG-000002"),
        .operation (.setCapacity 1 0)]).store.IsBalanced := by
  have balanced : desk.store.IsBalanced := by decide
  have numbered : desk.store.IsNumbered := by decide
  exact ⟨rfl, balanced, numbered,
    ((Desk.run_balanced office desk rfl).1 balanced numbered _).1⟩

end EnrollmentDesk
