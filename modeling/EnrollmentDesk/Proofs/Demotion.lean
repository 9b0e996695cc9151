import EnrollmentDesk.Proofs.Balance

/-!
# Who loses a seat

Every operation but a check-in lets the planner loose on its class, and the planner is free to take
seats away. From a balanced class it does not, unless there are fewer seats. The edit that comes
first puts nobody before a registration that was stored already (`Edit.rank_apply_le`): a
registration that goes leaves ranks as they were or lowers them, and one that comes is last in line.
So whoever was due a seat is due one still (`Edit.due_apply`).

If there are fewer seats, they are taken from the end of the line. Then who is checked in keeps the
seat, and who loses one stands before nobody who sits without being checked in.

## Main statements

* `Edit.losesSeat` — a seat is lost only to an edit that leaves fewer of them;
* `Desk.seat_lost_only_by_cut` — so it is in every run: only a capacity that has been lowered takes
  a confirmed seat away.
-/

namespace EnrollmentDesk

open Seating

/-- How a registration loses its seat: its class is given fewer seats, it is not checked in, and
those behind it in line lose theirs with it. -/
structure Store.LosesSeat (s t : Store) (c : Class) (capacity : Int) (r : Registration) : Prop where
  place : r.classId = c.id
  fewer : capacity.toNat < c.capacity.toNat
  absent : r.isAnchored = false
  behind : ∀ q ∈ s.registrations, q.classId = c.id → q.status = .confirmed → q.isAnchored = false →
    r.inLine q = true → t.Has q.id .waitlisted

namespace Edit

variable {e : Edit} {c : Class} {s : Store} {now : Instant} {r x : Registration}

/-- **Nobody is put before a registration that was stored already**, by an edit that a rebalance
follows. -/
theorem rank_apply_le (fits : e.Fits c s) (numbered : s.IsNumbered)
    (timely : ∀ new, e = insert new → s.NoneAfter now) (reseats : e.reseats = true)
    (hr : r ∈ s.registrations) :
    rank ((e.apply c now s).registrationsOf c.id) r ≤ rank (s.registrationsOf c.id) r := by
  -- what an edit puts in is canceled, or last in line
  have hnew : rank (e.new now s) r = 0 := by
    cases e with
    | nothing | setCapacity | delete => rfl
    | checkIn => exact nomatch reseats
    | cancel q =>
      rw [new, rank_singleton, if_neg]
      exact Bool.false_ne_true
    | insert new => exact rank_new_insert numbered new hr (timely new rfl r hr)
  have hrank := rank_apply fits (fun _ _ => numbered) now r
  omega

/-- **Who was due a seat is due one still**, if there are no fewer seats. -/
theorem due_apply (fits : e.Fits c s) (numbered : s.IsNumbered)
    (timely : ∀ new, e = insert new → s.NoneAfter now) (reseats : e.reseats = true)
    (hr : r ∈ s.registrations) (seats : c.capacity.toNat ≤ (e.classAfter c now).capacity.toNat)
    (sits : s.due c r = .confirmed) :
    (e.apply c now s).due (e.classAfter c now) r = .confirmed := by
  have hle := rank_apply_le fits numbered timely reseats hr
  unfold Store.due at sits ⊢
  rw [due_eq_confirmed_iff] at sits ⊢
  rw [e.classAfter_id]
  exact sits.imp_right fun hlt => by omega

/-- Only an edit of the capacity leaves fewer seats. -/
theorem eq_setCapacity_of_lt (h : (e.classAfter c now).capacity.toNat < c.capacity.toNat) :
    ∃ capacity, e = setCapacity capacity ∧ capacity.toNat < c.capacity.toNat := by
  cases e with
  | setCapacity capacity => exact ⟨capacity, rfl, h⟩
  | nothing | insert | cancel | checkIn | delete => exact absurd h (Nat.lt_irrefl _)

/-- Those behind someone who gets no seat when the capacity is set get none either. -/
theorem has_waitlisted_behind {capacity : Int} (hr : r ∈ s.registrations)
    (place : r.classId = c.id) (active : r.isActive = true) (absent : r.isAnchored = false)
    (gone : capacity.toNat ≤ rank (s.registrationsOf c.id) r) {q : Registration}
    (hq : q ∈ s.registrations) (qplace : q.classId = c.id) (qactive : q.isActive = true)
    (qabsent : q.isAnchored = false) (later : r.inLine q = true) :
    ((setCapacity capacity).result c now s).Has q.id .waitlisted := by
  have hrank : rank (s.registrationsOf c.id) r ≤ rank (s.registrationsOf c.id) q := by
    by_cases hid : r.id = q.id
    · obtain rfl := Table.eq_of_key_eq hr hq hid
      exact Nat.le_refl _
    · have hbefore := (precedes_iff_inLine absent qabsent hid).2 later
      exact Nat.le_of_lt (rank_lt (Store.mem_registrationsOf.2 ⟨hr, place⟩) active hbefore)
  refine ⟨_, Store.mem_seated.2 ⟨q, hq, rfl⟩, Store.seatedRow_id _ _ _ _, ?_⟩
  rw [Store.seatedRow_status (by rw [classAfter_id]; exact qplace) qactive]
  exact due_eq_waitlisted_iff.2 ⟨qabsent, Nat.le_trans gone hrank⟩

/-- **A seat is lost only to a capacity that was lowered.** -/
theorem losesSeat (fits : e.Fits c s) (numbered : s.IsNumbered) (balanced : s.IsBalancedAt c)
    (timely : ∀ new, e = insert new → s.NoneAfter now) (hr : r ∈ s.registrations)
    (sits : r.status = .confirmed) (waits : (e.result c now s).Has r.id .waitlisted) :
    ∃ capacity, e = setCapacity capacity ∧ s.LosesSeat (e.result c now s) c capacity r := by
  obtain ⟨x, hx, hid, hw⟩ := waits
  have active := Registration.isActive_of_status_eq_confirmed sits
  cases becomes fits (fun _ _ => numbered) hr hx hid with
  | canceled => exact nomatch hw
  | checkedIn => exact nomatch hw.symm.trans sits
  | passedOver q => exact nomatch hw.symm.trans sits
  | reseated reseats stays =>
    -- a rebalance touches its class alone
    have place : r.classId = c.id := by
      by_contra hne
      rw [Store.seatedRow_of_classId_ne (by rw [e.classAfter_id]; exact hne), sits] at hw
      exact nomatch hw
    rw [Store.seatedRow_status (by rw [e.classAfter_id]; exact place) active] at hw
    have hdue := balanced.due_of_confirmed hr place sits
    -- were there as many seats as before, `r` would be due one still
    have hfewer : (e.classAfter c now).capacity.toNat < c.capacity.toNat := by
      by_contra hge
      have hstill := due_apply fits numbered timely reseats hr (Nat.not_lt.1 hge) hdue
      exact nomatch hw.symm.trans hstill
    obtain ⟨capacity, rfl, fewer⟩ := eq_setCapacity_of_lt hfewer
    -- `r` is beyond the seats that are left, and so is everyone behind it
    obtain ⟨absent, gone⟩ := due_eq_waitlisted_iff.1 hw
    refine ⟨capacity, rfl, place, fewer, absent, fun q hq qplace qsits qabsent later => ?_⟩
    exact has_waitlisted_behind hr place active absent gone hq qplace
      (Registration.isActive_of_status_eq_confirmed qsits) qabsent later

end Edit

/-! ### Runs -/

/-- Only the operation that sets a capacity asks for that. -/
theorem Operation.Asks.eq_setCapacity {st : EnrollmentSettings} {now : Instant} {s : Store}
    {op : Operation} {c : Class} {capacity : Int} (h : Asks st now s op c (.setCapacity capacity)) :
    op = .setCapacity c.id capacity := by
  cases h
  rfl

namespace Desk

variable {office : Office} {d : Desk}

/-- Whoever sits before an operation that is not carried out does not wait after it. -/
theorem carriedOut_of_seat_lost {op : Operation} {r : Registration} (alone : d.rival = none)
    (hr : r ∈ d.store.registrations) (sits : r.status = .confirmed)
    (waits : (runOn (op.perform office) d).2.store.Has r.id .waitlisted) :
    op.carriedOut (runOn (op.perform office) d).1 = true := by
  by_contra hno
  rw [Operation.store_of_not_carriedOut alone (by simpa using hno)] at waits
  have sitting : d.store.Has r.id .confirmed := ⟨r, hr, rfl, sits⟩
  exact nomatch sitting.unique waits

/-- What it takes for one event to take a seat away. -/
theorem losesSeat_next (alone : d.rival = none) (balanced : d.store.IsBalanced)
    (numbered : d.store.IsNumbered) {event : Event}
    (timely : ∀ childId classId, event = .operation (.create childId classId) →
      d.store.NoneAfter d.now) {r : Registration} (hr : r ∈ d.store.registrations)
    (sits : r.status = .confirmed) (waits : (next office d event).store.Has r.id .waitlisted) :
    ∃ c ∈ d.store.classes, ∃ capacity, event = .operation (.setCapacity c.id capacity) ∧
      d.store.LosesSeat (next office d event).store c capacity r := by
  rcases next_store alone event with ⟨budget, h⟩ | ⟨op, c, e, rfl, -, asked, h⟩
  · -- the registrations are the same
    rw [h] at waits
    have sitting : d.store.Has r.id .confirmed := ⟨r, hr, rfl, sits⟩
    exact nomatch sitting.unique waits
  · have hc := Table.mem_of_get? asked.stored
    have hlatest : ∀ new, e = .insert new → d.store.NoneAfter d.now := by
      rintro new rfl
      cases asked with
      | create => exact timely _ _ rfl
    rw [h] at waits ⊢
    obtain ⟨capacity, rfl, loses⟩ :=
      Edit.losesSeat asked.fits numbered (balanced c hc) hlatest hr sits waits
    rw [asked.eq_setCapacity]
    exact ⟨c, hc, capacity, rfl, loses.place, loses.fewer, loses.absent, loses.behind⟩

/-- **Nobody loses a seat but to a cut of the capacity.** In a run from a store whose classes are
balanced, if what happens next takes the seat of someone who sits, then it is that the capacity of
the class is set, to fewer seats than there were. They were not checked in, and all those who sit
behind them without being checked in lose their seats too. -/
theorem seat_lost_only_by_cut (office : Office) (d : Desk) (alone : d.rival = none)
    (balanced : d.store.IsBalanced) (numbered : d.store.IsNumbered) (events : List Event)
    (event : Event)
    (timely : ∀ childId classId, event = .operation (.create childId classId) →
      (run office d events).store.NoneAfter (run office d events).now) :
    ∀ r ∈ (run office d events).store.registrations, r.status = .confirmed →
      (next office (run office d events) event).store.Has r.id .waitlisted →
      ∃ c ∈ (run office d events).store.classes, ∃ capacity,
        event = .operation (.setCapacity c.id capacity) ∧
        (Operation.setCapacity c.id capacity).carriedOut
          (runOn ((Operation.setCapacity c.id capacity).perform office) (run office d events)).1 =
            true ∧
        (run office d events).store.LosesSeat (next office (run office d events) event).store
          c capacity r := by
  intro r hr sits waits
  obtain ⟨hbalanced, hnumbered⟩ := isBalanced_run office alone balanced numbered events
  have halone := run_rival office alone events
  obtain ⟨c, hc, capacity, rfl, loses⟩ :=
    losesSeat_next halone hbalanced hnumbered timely hr sits waits
  exact ⟨c, hc, capacity, rfl, carriedOut_of_seat_lost halone hr sits waits, loses⟩

end Desk

/-- The child with the only seat loses it when there is none any more. -/
theorem Sample.early_loses_seat :
    desk.rival = none ∧ desk.store.IsBalanced ∧ desk.store.IsNumbered ∧
      (Desk.next office desk (.operation (.setCapacity 1 0))).store.Has early.id .waitlisted ∧
      ∃ c ∈ desk.store.classes, ∃ capacity,
        desk.store.LosesSeat (Desk.next office desk (.operation (.setCapacity 1 0))).store c
          capacity early := by
  have balanced : desk.store.IsBalanced := by decide
  have numbered : desk.store.IsNumbered := by decide
  have waits : (Desk.next office desk (.operation (.setCapacity 1 0))).store.Has early.id
      .waitlisted := ⟨_, List.mem_cons_self, rfl, rfl⟩
  obtain ⟨c, hc, capacity, -, -, loses⟩ :=
    Desk.seat_lost_only_by_cut office desk rfl balanced numbered []
      (.operation (.setCapacity 1 0)) (fun _ _ h => nomatch h) early
      List.mem_cons_self rfl waits
  exact ⟨rfl, balanced, numbered, waits, c, hc, capacity, loses⟩

end EnrollmentDesk
