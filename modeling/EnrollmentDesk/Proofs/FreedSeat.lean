import EnrollmentDesk.Proofs.HandedOut
import EnrollmentDesk.Proofs.WaitingLine

/-!
# A freed seat goes to the first in line

When a registration of a balanced class is canceled, at most one other is touched: who was first on
the waitlist, and only if a seat has been freed. A cancellation frees one (`Store.FreesSeat`) if the
registration sat and no more sit than there are seats. Those who have been checked in sit whatever
the capacity, so there may be more; then the room only empties to its capacity and nobody moves up.

The argument compares ranks before and after. A cancellation takes one registration out of the
order of seating, wherever it stood, and so moves up by one place all who were behind it
(`Edit.rank_cancel`). Nobody loses a seat by moving up. Who waits had all who sit before them and
those who wait ahead, which is at least as many as there are seats; that falls below the number of
seats only for the first who waits, only if it was one of the others who went, and only if exactly
as many sat as there are seats (`Edit.due_cancel_eq_confirmed_iff`).
-/

namespace EnrollmentDesk

open Seating

/-- A seat is freed when the registration is canceled: it is confirmed, and of those confirmed there
are not more than seats. -/
def Store.FreesSeat (s : Store) (c : Class) (r : Registration) : Prop :=
  r.status = .confirmed ∧ s.confirmedCount c.id ≤ c.capacity.toNat

namespace Edit

variable {c : Class} {s : Store} {r x : Registration} (fits : (cancel r).Fits c s)
  (now : Instant)

include fits in
theorem found_of_cancel : s.registrations.get? r.id = some r ∧ r.classId = c.id ∧
    r.isActive = true := by
  cases fits with
  | cancel found place active =>
    exact ⟨found, place, Registration.isActive_iff_ne_canceled.2 active⟩

/-- A row that is active after a cancellation was there before, and is not the one canceled. -/
theorem mem_apply_cancel (c : Class) (s : Store) (now : Instant) (active : x.isActive = true) :
    x ∈ ((cancel r).apply c now s).registrations ↔ x ∈ s.registrations ∧ x.id ≠ r.id := by
  have hgone : x ≠ r.canceled now := by
    rintro rfl
    exact nomatch active
  have hmem : x ∈ ((cancel r).apply c now s).registrations ↔
      x = r.canceled now ∨ (x ∈ s.registrations ∧ x.id ≠ r.id) := Table.mem_put
  rw [hmem, or_iff_right hgone]

include fits

/-- Everyone behind who is canceled moves up by one place. -/
theorem rank_cancel (x : Registration) :
    rank (((cancel r).apply c now s).registrationsOf c.id) x +
        (if precedes r x = true then 1 else 0) =
      rank (s.registrationsOf c.id) x := by
  have hrank := rank_apply fits (fun _ h => nomatch h) now x
  have active := (found_of_cancel fits).2.2
  have hgone : (r.canceled now).isActive = false := rfl
  rw [old, new, rank_singleton, rank_singleton, active, hgone, Bool.true_and, Bool.false_and,
    if_neg Bool.false_ne_true, Nat.add_zero] at hrank
  exact hrank

variable (balanced : s.IsBalancedAt c)

include balanced

section Due

variable (hx : x ∈ s.registrations) (place : x.classId = c.id)

include hx place

/-- Nobody loses a seat by a cancellation. -/
theorem due_cancel_of_confirmed (sits : x.status = .confirmed) :
    ((cancel r).apply c now s).due c x = .confirmed := by
  have hrank := rank_cancel fits now x
  have hdue := balanced.due_of_confirmed hx place sits
  unfold Store.due at hdue ⊢
  rw [due_eq_confirmed_iff] at hdue ⊢
  exact hdue.imp_right fun h => by omega

/-- **Who waits is due a seat** after a cancellation exactly if it frees one and they are first. -/
theorem due_cancel_eq_confirmed_iff (waits : x.status = .waitlisted) :
    ((cancel r).apply c now s).due c x = .confirmed ↔
      s.FreesSeat c r ∧ waitingAhead (s.registrationsOf c.id) x = 0 := by
  obtain ⟨hfound, rplace, ractive⟩ := found_of_cancel fits
  have hr := Table.mem_of_get? hfound
  have fair := balanced.isFair
  have hxs := Store.mem_registrationsOf.2 ⟨hx, place⟩
  have hrs := Store.mem_registrationsOf.2 ⟨hr, rplace⟩
  have distinct := s.nodup_registrationsOf c.id
  have absent := fair.absent_of_waitlisted hxs waits
  -- before the cancellation, all seats are taken by those before `x`
  have hafter := rank_cancel fits now x
  have hbefore := balanced.rank_eq hx place waits
  have hseats := balanced.toNat_le_confirmedCount hx place waits
  unfold Store.due Store.FreesSeat
  rw [due_eq_confirmed_iff, absent]
  rcases Registration.isActive_iff.1 ractive with rsits | rwaits
  · -- who is canceled sat, and so stood before `x` and was counted
    have behind : precedes r x = true :=
      fair.precedes_of_confirmed hxs distinct absent waits hrs rsits
    have counted : 0 < s.confirmedCount c.id := by
      rw [s.confirmedCount_eq, List.countP_pos_iff]
      exact ⟨r, hrs, decide_eq_true rsits⟩
    rw [if_pos behind] at hafter
    constructor
    · intro h
      have hlt := h.resolve_left Bool.false_ne_true
      exact ⟨⟨rsits, by omega⟩, by omega⟩
    · rintro ⟨⟨-, hle⟩, first⟩
      exact .inr (by omega)
  · -- who is canceled waited, and `x` still has all who sit before them
    have hle : s.confirmedCount c.id ≤
        rank (((cancel r).apply c now s).registrationsOf c.id) x := by
      split at hafter
      · next behind =>
        have ahead : r.IsAhead x :=
          isAhead_of_precedes ((fair.absent_of_waitlisted hrs rwaits).trans absent.symm) behind
        have counted : 0 < waitingAhead (s.registrationsOf c.id) x := by
          unfold waitingAhead
          rw [List.countP_pos_iff]
          exact ⟨r, hrs, decide_eq_true ⟨rwaits, ahead⟩⟩
        omega
      · omega
    constructor
    · intro h
      have hlt := h.resolve_left Bool.false_ne_true
      omega
    · exact fun h => nomatch rwaits.symm.trans h.1.1

end Due

/-- A row other than the canceled one stays as it is, unless it waits, is first and a seat is
freed. -/
theorem get?_result_cancel_of_ne {id : Int} (hid : id ≠ r.id)
    (passed : ∀ x, s.registrations.get? id = some x → x.classId = c.id → x.status = .waitlisted →
      ¬ (s.FreesSeat c r ∧ waitingAhead (s.registrationsOf c.id) x = 0)) :
    ((cancel r).result c now s).registrations.get? id = s.registrations.get? id := by
  rw [get?_result rfl, get?_apply_cancel, if_neg hid]
  cases hget : s.registrations.get? id with
  | none => rfl
  | some x =>
    have hx := Table.mem_of_get? hget
    rw [Option.map_some, Option.some_inj]
    refine Store.seatedRow_of_eq fun place active => ?_
    rcases Registration.isActive_iff.1 active with sits | waits
    · exact sits.trans (due_cancel_of_confirmed fits now balanced hx place sits).symm
    · have hnot := passed x hget place waits
      rw [← due_cancel_eq_confirmed_iff fits now balanced hx place waits] at hnot
      exact waits.trans ((due_eq_or _ _ x).resolve_left hnot).symm

/-- Nobody is promoted if no seat is freed or nobody waits. -/
theorem promoted_cancel_eq_nil
    (idle : ¬ (s.FreesSeat c r ∧
      ∃ q ∈ s.registrations, q.classId = c.id ∧ q.status = .waitlisted)) :
    (cancel r).promoted c now s = [] := by
  change Store.promoted _ c = []
  unfold Store.promoted
  rw [List.map_eq_nil_iff, List.filter_eq_nil_iff]
  intro x hx
  obtain ⟨hx, place, active⟩ := Tx.mem_order_registrationsOf.1 hx
  obtain ⟨hx, -⟩ := (mem_apply_cancel c s now active).1 hx
  rw [decide_eq_true_iff]
  rintro ⟨waits, hdue⟩
  have freed := ((due_cancel_eq_confirmed_iff fits now balanced hx place waits).1 hdue).1
  exact idle ⟨freed, x, hx, place, waits⟩

section Freed

variable {w : Registration} (freed : s.FreesSeat c r) (hw : w ∈ s.registrations)
  (place : w.classId = c.id) (waits : w.status = .waitlisted)
  (first : waitingAhead (s.registrationsOf c.id) w = 0)

include freed hw place waits first

/-- **The freed seat** goes to who is first on the waitlist, and to nobody else. -/
theorem promoted_cancel_eq_singleton :
    (cancel r).promoted c now s = [{ w with status := .confirmed }] := by
  let seat : Registration → Registration := fun x => { x with status := .confirmed }
  have hwid : w.id ≠ r.id := by
    intro hid
    have same := Table.eq_of_key_eq hw (Table.mem_of_get? (found_of_cancel fits).1) hid
    rw [same] at waits
    exact nomatch waits.symm.trans freed.1
  have only : ((order (((cancel r).apply c now s).registrationsOf c.id)).filter fun x =>
      x.status = .waitlisted ∧ ((cancel r).apply c now s).due c x = .confirmed) = [w] := by
    rw [← List.perm_singleton]
    refine (List.perm_ext_iff_of_nodup ?_ (List.nodup_singleton w)).2 fun x => ?_
    · exact (List.Nodup.of_map _ (Tx.nodup_order_registrationsOf _ c)).filter _
    rw [List.mem_filter, Tx.mem_order_registrationsOf, List.mem_singleton, decide_eq_true_iff]
    constructor
    · rintro ⟨⟨hx, xplace, active⟩, xwaits, hdue⟩
      obtain ⟨hx, -⟩ := (mem_apply_cancel c s now active).1 hx
      obtain ⟨-, xfirst⟩ :=
        (due_cancel_eq_confirmed_iff fits now balanced hx xplace xwaits).1 hdue
      exact Store.eq_of_first hw waits (place ▸ first) hx (xplace.trans place.symm) xwaits
        (place ▸ xfirst)
    · rintro rfl
      have active : x.isActive = true := Registration.isActive_iff.2 (.inr waits)
      exact ⟨⟨(mem_apply_cancel c s now active).2 ⟨hw, hwid⟩, place, active⟩, waits,
        (due_cancel_eq_confirmed_iff fits now balanced hw place waits).2 ⟨freed, first⟩⟩
  exact congrArg (List.map seat) only

/-- Who gets the freed seat has it from now on. -/
theorem get?_result_cancel_of_first :
    ((cancel r).result c now s).registrations.get? w.id =
      some { w with status := .confirmed, updatedAt := now } := by
  have hprom : ({ w with status := .confirmed } : Registration) ∈ (cancel r).promoted c now s := by
    rw [promoted_cancel_eq_singleton fits now balanced freed hw place waits first]
    exact List.mem_singleton_self _
  exact get?_result_of_mem_promoted hprom

end Freed

end Edit

/-! ### Cancellations -/

/-- **A cancellation that is carried out** writes the edit of the registration it was asked for. -/
theorem Operation.edit_of_cancellation? {office : Office} {d : Desk} (alone : d.rival = none)
    {op : Operation} {r : Registration} {a : Cancellation} (found : op.toCancel? d.store = some r)
    (answer : op.cancellation? (runOn (op.perform office) d).1 = some a)
    (effective : a.already = false) :
    ∃ c, d.store.classes.get? r.classId = some c ∧ (Edit.cancel r).Fits c d.store ∧
      a.promoted = (Edit.cancel r).promoted c d.now d.store ∧
      (runOn (op.perform office) d).2.store =
        ((Edit.cancel r).result c d.now d.store).committed
          ((Edit.cancel r).writes c d.now d.store) := by
  obtain ⟨b, hb, halready⟩ := eq_ok_of_cancellation? answer
  obtain ⟨c, e, asked, reported, hstore, -⟩ := of_answer alone hb (halready.trans effective)
  have fits := asked.fits
  rw [hb] at answer
  cases asked with
  | cancelByCode hfound stored place active =>
    obtain rfl := Option.some.inj (hfound.symm.trans found)
    obtain rfl := Option.some.inj answer
    exact ⟨c, place ▸ stored, fits, reported.2.1, hstore⟩
  | cancelById hfound stored place active =>
    obtain rfl := Option.some.inj (hfound.symm.trans found)
    obtain rfl := Option.some.inj answer
    exact ⟨c, place ▸ stored, fits, reported.2.1, hstore⟩
  | create | setCapacity | checkIn | delete | rebalance => exact nomatch found

/-- **A freed seat goes to the first in line.** When a registration of a balanced class is canceled,
by code or by number, and it sat, somebody waits and no more sit than there are seats, then who has
the first place on the waitlist is promoted and nobody else; in every other case nobody is. All
other rows stay as they are. -/
theorem Desk.freed_seat_goes_to_first (office : Office) (d : Desk) (alone : d.rival = none)
    {op : Operation} {r : Registration} {c : Class} {a : Cancellation}
    (found : op.toCancel? d.store = some r) (stored : d.store.classes.get? r.classId = some c)
    (balanced : d.store.IsBalancedAt c)
    (answer : op.cancellation? (runOn (op.perform office) d).1 = some a)
    (effective : a.already = false) :
    (r.status = .confirmed ∧ d.store.confirmedCount r.classId ≤ (max c.capacity 0).toNat ∧
        (∃ q ∈ d.store.registrations, q.classId = r.classId ∧ q.status = .waitlisted) →
      ∃ w ∈ d.store.registrations, w.classId = r.classId ∧ w.status = .waitlisted ∧
        d.store.position? w = some 1 ∧
        (∀ q ∈ d.store.registrations, q.classId = r.classId → q.status = .waitlisted → q ≠ w →
          w.IsAhead q) ∧
        a.promoted = [{ w with status := .confirmed }] ∧
        (runOn (op.perform office) d).2.store.registrations.get? w.id =
          some { w with status := .confirmed, updatedAt := d.now } ∧
        ∀ id, id ≠ r.id → id ≠ w.id →
          (runOn (op.perform office) d).2.store.registrations.get? id =
            d.store.registrations.get? id) ∧
    (¬ (r.status = .confirmed ∧ d.store.confirmedCount r.classId ≤ (max c.capacity 0).toNat ∧
        ∃ q ∈ d.store.registrations, q.classId = r.classId ∧ q.status = .waitlisted) →
      a.promoted = [] ∧ ∀ id, id ≠ r.id →
        (runOn (op.perform office) d).2.store.registrations.get? id =
          d.store.registrations.get? id) := by
  obtain ⟨c', stored', fits, hpromoted, hstore⟩ :=
    Operation.edit_of_cancellation? alone found answer effective
  obtain rfl := Option.some.inj (stored'.symm.trans stored)
  have hplace : r.classId = c'.id := (Table.key_of_get? stored).symm
  have hseats : (max c'.capacity 0).toNat = c'.capacity.toNat := by omega
  have hget : ∀ id, (runOn (op.perform office) d).2.store.registrations.get? id =
      ((Edit.cancel r).result c' d.now d.store).registrations.get? id := by
    intro id
    rw [hstore]
    rfl
  rw [hplace, hseats, hpromoted]
  simp only [hget]
  constructor
  · rintro ⟨sits, room, some_wait⟩
    have freed : d.store.FreesSeat c' r := ⟨sits, room⟩
    obtain ⟨w, hw, place, waits, first⟩ := Store.exists_first_waiting some_wait
    refine ⟨w, hw, place, waits, ?_, fun q hq qplace qwaits hne => ?_, ?_, ?_,
      fun id hid hidw => ?_⟩
    · rw [Store.position?_eq hw waits, place, first]
    · exact Store.isAhead_of_first hw (place ▸ first) hq (qplace.trans place.symm) qwaits hne
    · exact Edit.promoted_cancel_eq_singleton fits d.now balanced freed hw place waits first
    · exact Edit.get?_result_cancel_of_first fits d.now balanced freed hw place waits first
    · refine Edit.get?_result_cancel_of_ne fits d.now balanced hid fun x hx xplace xwaits h => ?_
      -- it is another who waits, and only `w` is first
      have hxw := Store.eq_of_first hw waits (place ▸ first) (Table.mem_of_get? hx)
        (xplace.trans place.symm) xwaits (place ▸ h.2)
      exact hidw ((Table.key_of_get? hx).symm.trans (hxw ▸ rfl))
  · intro idle
    have idle : ¬ (d.store.FreesSeat c' r ∧
        ∃ q ∈ d.store.registrations, q.classId = c'.id ∧ q.status = .waitlisted) :=
      fun h => idle ⟨h.1.1, h.1.2, h.2⟩
    refine ⟨Edit.promoted_cancel_eq_nil fits d.now balanced idle, fun id hid => ?_⟩
    exact Edit.get?_result_cancel_of_ne fits d.now balanced hid fun x hx place waits h =>
      idle ⟨h.1, x, Table.mem_of_get? hx, place, waits⟩

/-- The only seat is given up, and goes to the child who waits. -/
theorem Sample.late_gets_the_seat :
    desk.rival = none ∧ (Operation.cancelById 1).toCancel? desk.store = some early ∧
      desk.store.classes.get? early.classId = some yoga ∧ desk.store.IsBalancedAt yoga ∧
      (runOn ((Operation.cancelById 1).perform office) desk).2.store.registrations.get? 2 =
        some { late with status := .confirmed, updatedAt := ⟨10⟩ } := by
  have balanced : desk.store.IsBalancedAt yoga := by decide
  obtain ⟨a, answer, effective⟩ :
      ∃ a, (Operation.cancelById 1).cancellation?
        (runOn ((Operation.cancelById 1).perform office) desk).1 = some a ∧ a.already = false :=
    ⟨_, rfl, rfl⟩
  have room : early.status = .confirmed ∧
      desk.store.confirmedCount early.classId ≤ (max yoga.capacity 0).toNat ∧
      ∃ q ∈ desk.store.registrations, q.classId = early.classId ∧ q.status = .waitlisted :=
    ⟨rfl, by decide, late, List.mem_cons_of_mem _ List.mem_cons_self, rfl, rfl⟩
  obtain ⟨w, hw, -, waits, -, -, -, hrow, -⟩ :=
    (Desk.freed_seat_goes_to_first office desk rfl rfl rfl balanced answer effective).1 room
  refine ⟨rfl, rfl, rfl, balanced, ?_⟩
  -- nobody else waits
  have hw : w ∈ [early, late] := hw
  rcases List.mem_cons.1 hw with rfl | hw
  · exact nomatch waits
  · obtain rfl := List.mem_singleton.1 hw
    exact hrow

end EnrollmentDesk
