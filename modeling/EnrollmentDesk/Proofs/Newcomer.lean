import EnrollmentDesk.Proofs.Promotion
import EnrollmentDesk.Proofs.Roster

/-!
# A newcomer displaces nobody

A registration is stored with a status that is read off the number of confirmed ones alone, and then
its class is rebalanced. In a balanced class the rebalance finds nothing to do. The newcomer is last
in line, so no rank but its own is new (`Edit.rank_apply_insert`), and the status that it was stored
with is the one that is due (`Edit.due_insert`). For that the three ways to say that a seat is free
have to agree: that fewer are confirmed than the capacity, that the rank of who comes last is less
than the number of seats, and that the roster has seats available. In a class with more children
checked in than seats, or with a negative capacity, all three say that there is none.
-/

namespace EnrollmentDesk

open Seating

namespace Store

variable {s : Store} {c : Class}

/-- **In a balanced class** a seat is free exactly if fewer are active than there are seats. -/
theorem IsBalancedAt.confirmedCount_lt_iff (h : s.IsBalancedAt c) :
    (s.confirmedCount c.id : Int) < c.capacity ↔
      (s.registrationsOf c.id).countP Registration.isActive < c.capacity.toNat := by
  have anchored_le : ((s.registrationsOf c.id).countP fun r => r.isActive && r.isAnchored) ≤
      (s.registrationsOf c.id).countP Registration.isActive :=
    List.countP_mono_left fun r _ hr => (Bool.and_eq_true _ _ ▸ hr).1
  have hcount := h.confirmedCount_eq
  omega

end Store

namespace Edit

variable {c : Class} {s : Store} {now : Instant} {new : NewRegistration}
  (fits : (insert new).Fits c s) (numbered : s.IsNumbered) (timely : s.NoneAfterIn c.id now)

include fits numbered timely

/-- A newcomer moves nobody. -/
theorem rank_apply_insert {r : Registration} (hr : r ∈ s.registrations)
    (place : r.classId = c.id) :
    rank (((insert new).apply c now s).registrationsOf c.id) r =
      rank (s.registrationsOf c.id) r := by
  have hrank := rank_apply fits (fun _ _ => numbered) now r
  rw [rank_new_insert numbered new hr (timely r hr place)] at hrank
  exact hrank

variable (balanced : s.IsBalancedAt c)

include balanced

/-- **The status a newcomer is stored with is due.** -/
theorem due_insert :
    ((insert new).apply c now s).due c (new.stored (s.lastRegistrationId + 1) now) =
      new.status := by
  have hrank := rank_stored fits numbered timely
  have free := balanced.confirmedCount_lt_iff
  rw [status_of_insert fits]
  unfold Store.startingStatus Store.due
  split
  · next room => exact due_eq_confirmed_iff.2 (.inr (hrank ▸ free.1 room))
  · next full => exact due_eq_waitlisted_iff.2 ⟨rfl, by omega⟩

/-- A balanced class is balanced with a newcomer in it. -/
theorem isBalancedAt_insert : ((insert new).apply c now s).IsBalancedAt c := by
  rw [Store.isBalancedAt_iff]
  intro r hr place active
  rcases (mem_apply fits now fun _ _ => numbered).1 hr with ⟨hr, -⟩ | hnew
  · -- others are due what they were
    rw [Store.isBalancedAt_iff.1 balanced r hr place active]
    unfold Store.due Seating.due target
    rw [rank_apply_insert fits numbered timely hr place]
  · obtain rfl := List.mem_singleton.1 hnew
    exact (due_insert fits numbered timely balanced).symm

/-- So the rebalance leaves what has been stored as it is. -/
theorem result_insert : (insert new).result c now s = (insert new).apply c now s :=
  (isBalancedAt_insert fits numbered timely balanced).seated_eq now

theorem promoted_insert : (insert new).promoted c now s = [] :=
  (isBalancedAt_insert fits numbered timely balanced).promoted_eq_nil

omit balanced in
/-- All who wait are ahead of a newcomer. -/
theorem waitingAhead_stored :
    waitingAhead (((insert new).apply c now s).registrationsOf c.id)
        (new.stored (s.lastRegistrationId + 1) now) =
      (s.registrationsOf c.id).countP fun r => r.status = .waitlisted := by
  obtain ⟨l, hbefore, hafter⟩ := registrationsOf_apply fits (fun _ _ => numbered) now c.id
  rw [if_pos rfl, old, List.nil_append] at hbefore
  rw [if_pos rfl] at hafter
  unfold waitingAhead
  rw [hafter.countP_eq, hbefore.countP_eq, List.countP_append, Edit.new, List.countP_singleton,
    if_neg (by simp [Registration.IsAhead.irrefl]), Nat.zero_add]
  refine List.countP_congr fun q hq => ?_
  obtain ⟨hq, place⟩ := Store.mem_registrationsOf.1 (hbefore.mem_iff.2 hq)
  have htime : q.createdAt.ticks ≤ now.ticks := timely q hq place
  have hid : q.id ≤ s.lastRegistrationId := numbered q hq
  have ahead : q.IsAhead (new.stored (s.lastRegistrationId + 1) now) := by
    rw [Registration.isAhead_iff]
    change q.createdAt.ticks < now.ticks ∨
      (q.createdAt.ticks = now.ticks ∧ q.id < s.lastRegistrationId + 1)
    omega
  rw [decide_eq_true_iff, decide_eq_true_iff, and_iff_left ahead]

end Edit

/-! ### At the desk -/

/-- **A newcomer displaces nobody.** When a child is registered for a balanced class in which no
registration is from the future, the only row that is written is the new one, and nobody is
promoted. The newcomer sits if the roster had seats available before; if not, it waits behind all
who wait for the class. -/
theorem Desk.newcomer_displaces_nobody (office : Office) (d : Desk) (alone : d.rival = none)
    {childId classId : Int} {c : Class} {p : Placement}
    (stored : d.store.classes.get? classId = some c) (balanced : d.store.IsBalancedAt c)
    (numbered : d.store.IsNumbered) (timely : d.store.NoneAfterIn classId d.now)
    (answer : (runOn (Service.create office childId classId) d).1 = .ok p) :
    p.registration.id = d.store.lastRegistrationId + 1 ∧
      (∀ id, (runOn (Service.create office childId classId) d).2.store.registrations.get? id =
        if id = p.registration.id then some p.registration else d.store.registrations.get? id) ∧
      (runOn (Service.create office childId classId) d).2.calls = d.calls ∧
      (runOn ((Operation.create childId classId).settle office.settings.enrollment) d).1 =
        .ok (p, []) ∧
      ∃ o, (runOn (Service.occupancy office classId) d).1 = .ok o ∧
        (0 < o.available → p.registration.status = .confirmed ∧ p.position = none) ∧
        (¬ 0 < o.available → p.registration.status = .waitlisted ∧
          p.position = some (((d.store.registrationsOf classId).countP fun r =>
            r.status = .waitlisted) + 1)) := by
  have answer' : (runOn ((Operation.create childId classId).perform office) d).1 = .ok p := answer
  have roster : d.store.occupancy? classId = some _ := congrArg (Option.map _) stored
  obtain ⟨c', e, asked, ⟨hid, hrow, hpos⟩, hstore, hcalls, hsettle⟩ :=
    Operation.of_answer alone answer' rfl
  have fits := asked.fits
  obtain ⟨rfl, new, rfl⟩ := asked.of_create
  obtain rfl := Option.some.inj (asked.stored.symm.trans stored)
  -- nothing is left for the rebalance to do
  rw [Edit.result_insert fits numbered timely balanced] at hid hrow hpos hstore
  rw [Edit.promoted_insert fits numbered timely balanced] at hcalls hsettle
  have hnew : p.registration = new.stored (d.store.lastRegistrationId + 1) d.now := by
    rw [Edit.get?_apply_insert] at hrow
    exact (Option.some.inj ((if_pos hid).symm.trans hrow)).symm
  have hmem := Table.mem_of_get? hrow
  rw [hnew] at hmem hpos
  have free := Store.available_pos_iff stored roster
  have status : new.status = d.store.startingStatus c' := Edit.status_of_insert fits
  have online : d.online = true := Service.online_of_perform answer
  refine ⟨hid, fun id => ?_, ?_, hsettle, _, Service.runOn_occupancy online roster,
    fun room => ?_, fun full => ?_⟩
  · have hget : (runOn (Service.create office childId c'.id) d).2.store.registrations.get? id =
        ((Edit.insert new).apply c' d.now d.store).registrations.get? id :=
      congrArg (·.registrations.get? id) hstore
    rw [hget, Edit.get?_apply_insert, hnew]
    rfl
  · exact hcalls.trans (List.append_nil _)
  · have sits : new.status = .confirmed := by
      rw [status, Store.startingStatus, if_pos (free.1 room)]
    rw [hpos, hnew]
    exact ⟨sits, Store.position?_eq_none (ne_of_eq_of_ne sits (by decide))⟩
  · have waits : new.status = .waitlisted := by
      rw [status, Store.startingStatus, if_neg (mt free.2 full)]
    have hplace : new.classId = c'.id := Edit.classId_of_insert fits
    rw [hpos, hnew, Store.position?_eq hmem waits]
    refine ⟨waits, ?_⟩
    change some (waitingAhead (((Edit.insert new).apply c' d.now d.store).registrationsOf
      new.classId) _ + 1) = _
    rw [hplace, Edit.waitingAhead_stored fits numbered timely]

/-- A third child comes for the only seat, and is second on the waitlist. -/
theorem Sample.ben_is_second :
    thirdDesk.rival = none ∧ thirdDesk.store.classes.get? 1 = some yoga ∧
      thirdDesk.store.IsBalancedAt yoga ∧ thirdDesk.store.IsNumbered ∧
      thirdDesk.store.NoneAfterIn 1 thirdDesk.now ∧
      (runOn (Service.create office 3 1) thirdDesk).1 = .ok ⟨ben, some 2⟩ ∧
      ∀ id ≠ ben.id, (runOn (Service.create office 3 1) thirdDesk).2.store.registrations.get? id =
        thirdDesk.store.registrations.get? id := by
  have stored : thirdDesk.store.classes.get? 1 = some yoga := rfl
  have balanced : thirdDesk.store.IsBalancedAt yoga := by decide
  have numbered : thirdDesk.store.IsNumbered := by decide
  have timely : thirdDesk.store.NoneAfterIn 1 thirdDesk.now := by decide
  have answer : (runOn (Service.create office 3 1) thirdDesk).1 = .ok ⟨ben, some 2⟩ := rfl
  obtain ⟨-, hget, -⟩ := Desk.newcomer_displaces_nobody office thirdDesk rfl stored balanced
    numbered timely answer
  exact ⟨rfl, stored, balanced, numbered, timely, answer,
    fun id hid => (hget id).trans (if_neg hid)⟩

end EnrollmentDesk
