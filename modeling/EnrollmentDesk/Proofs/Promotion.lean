import EnrollmentDesk.Proofs.Desk
import EnrollmentDesk.Proofs.Standing

/-!
# One notice for each promotion

Who hears of what is read off the calls that an operation makes. They are made after its commit, and
to every listener about the same registrations: those that waited in the store before and sit in the
store after. A session lists them from its plan, before it writes them, and in the order of seating;
that the list is right needs two facts about the edit before the plan. It gives nobody a status that
another registration had (`Edit.promoted_iff`), and a registration that has just been stored is not
promoted by the rebalance that follows: it comes last in line, so it waits if and only if there was
no seat for it (`Edit.due_stored`).

## Main statements

* `Service.heardBy_callsAbout` — every listener hears of everyone promoted, once;
* `Edit.promoted_iff` — promoted are those who waited before and sit afterwards;
* `Desk.one_notice_per_promotion` — both together, for every operation.
-/

namespace EnrollmentDesk

open Seating

/-! ### Who hears of whom -/

namespace Service

/-- What the listener at a position hears of, in order. -/
def heardBy (position : Nat) (calls : List Call) : List Registration :=
  (calls.filter fun call => call.listener == position).map Call.registration

theorem heardBy_append (position : Nat) (calls calls' : List Call) :
    heardBy position (calls ++ calls') = heardBy position calls ++ heardBy position calls' := by
  unfold heardBy
  rw [List.filter_append, List.map_append]

theorem heardBy_callsFrom (r : Registration) (position first n : Nat) :
    heardBy position (callsFrom r first n) =
      if first ≤ position ∧ position < first + n then [r] else [] := by
  induction n generalizing first with
  | zero => rw [callsFrom, if_neg (by omega)]; rfl
  | succ n ih =>
    have hcons : callsFrom r first (n + 1) = [⟨first, r⟩] ++ callsFrom r (first + 1) n := rfl
    rw [hcons, heardBy_append, ih]
    by_cases hp : first = position
    · subst hp
      have hone : heardBy first [⟨first, r⟩] = [r] := by
        unfold heardBy
        rw [List.filter_cons_of_pos (by simp)]
        rfl
      rw [hone, if_neg (by omega), if_pos (by omega)]
      rfl
    · have hnone : heardBy position [⟨first, r⟩] = [] := by
        unfold heardBy
        rw [List.filter_cons_of_neg (by simpa using hp)]
        rfl
      rw [hnone, List.nil_append]
      by_cases hin : first + 1 ≤ position ∧ position < first + 1 + n
      · rw [if_pos hin, if_pos (by omega)]
      · rw [if_neg hin, if_neg (by omega)]

/-- **Every listener hears of everyone promoted**, once and in the same order. -/
theorem heardBy_callsAbout (office : Office) (promoted : List Registration) {position : Nat}
    (h : position < office.listeners.length) :
    heardBy position (callsAbout office promoted) = promoted := by
  unfold callsAbout
  induction promoted with
  | nil => rfl
  | cons r rs ih =>
    rw [List.flatMap_cons, heardBy_append, ih, heardBy_callsFrom, if_pos (by omega)]
    rfl

theorem of_mem_callsFrom {r : Registration} {first n : Nat} {call : Call}
    (h : call ∈ callsFrom r first n) : call.registration = r ∧ call.listener < first + n := by
  induction n generalizing first with
  | zero => exact absurd h List.not_mem_nil
  | succ n ih =>
    rcases List.mem_cons.1 h with rfl | h
    · exact ⟨rfl, by change first < first + (n + 1); omega⟩
    · obtain ⟨hr, hlt⟩ := ih h
      exact ⟨hr, by omega⟩

/-- Nobody else is called, and of nobody else. -/
theorem of_mem_callsAbout {office : Office} {promoted : List Registration} {call : Call}
    (h : call ∈ callsAbout office promoted) :
    call.registration ∈ promoted ∧ call.listener < office.listeners.length := by
  obtain ⟨r, hmem, hr⟩ := List.mem_flatMap.1 h
  obtain ⟨rfl, hlt⟩ := of_mem_callsFrom hr
  exact ⟨hmem, by omega⟩

end Service

/-! ### Who is promoted -/

namespace Store

variable {s : Store} {c : Class}

/-- Who is confirmed is active. -/
theorem confirmedCount_le_countP (s : Store) (classId : Int) :
    s.confirmedCount classId ≤ (s.registrationsOf classId).countP Registration.isActive := by
  unfold confirmedCount registrationsOf
  rw [List.countP_filter]
  refine List.countP_mono_left fun q _ hq => ?_
  rw [Bool.and_eq_true, beq_iff_eq] at hq ⊢
  rw [beq_iff_eq] at hq
  exact ⟨Registration.isActive_of_status_eq_confirmed hq.2, hq.1⟩

theorem nodup_ids_promoted (s : Store) (c : Class) :
    ((s.promoted c).map Registration.id).Nodup := by
  unfold promoted
  rw [List.map_map]
  exact (List.filter_sublist.map _).nodup (Tx.nodup_order_registrationsOf s c)

theorem mem_ids_promoted {id : Int} : id ∈ (s.promoted c).map Registration.id ↔
    ∃ r ∈ s.registrations, r.id = id ∧ r.classId = c.id ∧ r.status = .waitlisted ∧
      s.due c r = .confirmed := by
  unfold promoted
  rw [List.map_map, List.mem_map]
  constructor
  · rintro ⟨r, hr, hid⟩
    obtain ⟨horder, hr⟩ := List.mem_filter.1 hr
    obtain ⟨hmem, place, -⟩ := Tx.mem_order_registrationsOf.1 horder
    exact ⟨r, hmem, hid, place, of_decide_eq_true hr⟩
  · rintro ⟨r, hmem, hid, place, hr⟩
    have active : r.isActive = true := Registration.isActive_iff.2 (.inr hr.1)
    exact ⟨r, List.mem_filter.2 ⟨Tx.mem_order_registrationsOf.2 ⟨hmem, place, active⟩,
      decide_eq_true hr⟩, hid⟩

/-- Promoted by a rebalance are those who wait before it and sit after it. -/
theorem mem_ids_promoted_iff (now : Instant) {id : Int} :
    id ∈ (s.promoted c).map Registration.id ↔
      s.Has id .waitlisted ∧ (s.seated c now).Has id .confirmed := by
  rw [mem_ids_promoted]
  constructor
  · rintro ⟨r, hmem, hid, place, waits, hdue⟩
    have active : r.isActive = true := Registration.isActive_iff.2 (.inr waits)
    refine ⟨⟨r, hmem, hid, waits⟩, s.seatedRow c now r, mem_seated.2 ⟨r, hmem, rfl⟩, ?_, ?_⟩
    · rw [seatedRow_id, hid]
    · rw [seatedRow_status place active, hdue]
  -- a row outside the class, or one that is not active, has the status it had
  · rintro ⟨⟨r, hmem, hid, waits⟩, r', hr', hid', sits⟩
    obtain ⟨q, hq, rfl⟩ := mem_seated.1 hr'
    rw [seatedRow_id] at hid'
    obtain rfl : q = r := Table.eq_of_key_eq hq hmem (hid'.trans hid.symm)
    have active : q.isActive = true := Registration.isActive_iff.2 (.inr waits)
    by_cases place : q.classId = c.id
    · rw [seatedRow_status place active] at sits
      exact ⟨q, hmem, hid, place, waits, sits⟩
    · rw [seatedRow_of_classId_ne place, waits] at sits
      exact nomatch sits

end Store

namespace Edit

variable {e : Edit} {c : Class} {s : Store} {now : Instant}

/-- What an edit that stores a registration relies on: the number is new, and the time is the
latest. -/
def IsTimely (e : Edit) (now : Instant) (s : Store) : Prop :=
  ∀ new, e = insert new → s.IsNumbered ∧ s.NoneAfter now

/-- All active registrations of the class stand before one that is stored now. -/
theorem rank_stored {new : NewRegistration} (fits : (insert new).Fits c s)
    (numbered : s.IsNumbered) (timely : s.NoneAfterIn c.id now) :
    rank (((insert new).apply c now s).registrationsOf c.id)
        (new.stored (s.lastRegistrationId + 1) now) =
      (s.registrationsOf c.id).countP Registration.isActive := by
  have hrank := rank_apply fits (fun _ _ => numbered) now
    (new.stored (s.lastRegistrationId + 1) now)
  rw [Edit.new, rank_singleton, precedes_irrefl, Bool.and_false, if_neg Bool.false_ne_true] at hrank
  -- it comes last in line, after those that are anchored as well
  have hall : rank (s.registrationsOf c.id) (new.stored (s.lastRegistrationId + 1) now) =
      (s.registrationsOf c.id).countP Registration.isActive := by
    refine List.countP_congr fun q hq => ?_
    obtain ⟨hq, place⟩ := Store.mem_registrationsOf.1 hq
    rw [s.precedes_stored numbered new hq (timely q hq place), Bool.and_true]
  change _ + 0 = _ at hrank
  omega

/-- **A registration that waits when it is stored is not due a seat**: all active registrations of
the class are before it, and as many as there are seats are confirmed. -/
theorem due_stored {new : NewRegistration} (fits : (insert new).Fits c s) (numbered : s.IsNumbered)
    (timely : s.NoneAfterIn c.id now) (waits : new.status = .waitlisted) :
    ((insert new).apply c now s).due c (new.stored (s.lastRegistrationId + 1) now) =
      .waitlisted := by
  -- it was stored as waiting because the confirmed ones fill the seats
  have hseats : c.capacity.toNat ≤ s.confirmedCount c.id := by
    rw [status_of_insert fits, Store.startingStatus] at waits
    split at waits
    · exact nomatch waits
    · omega
  refine due_eq_waitlisted_iff.2 ⟨rfl, ?_⟩
  calc c.capacity.toNat
    _ ≤ s.confirmedCount c.id := hseats
    _ ≤ (s.registrationsOf c.id).countP Registration.isActive := s.confirmedCount_le_countP c.id
    _ = _ := (rank_stored fits numbered timely).symm

/-- Who waits after an edit and is promoted, waited before it as well. -/
theorem has_waitlisted_of_promoted (fits : e.Fits c s) (timely : e.IsTimely now s)
    (hr : e.reseats = true) {id : Int} (waits : (e.apply c now s).Has id .waitlisted)
    (sits : (e.result c now s).Has id .confirmed) : s.Has id .waitlisted := by
  obtain ⟨x, hx, hid, hw⟩ := waits
  rcases (mem_apply fits now fun new h => (timely new h).1).1 hx with ⟨hmem, -⟩ | hnew
  · exact ⟨x, hmem, hid, hw⟩
  -- the only new row that may wait is that of a registration stored just now
  exfalso
  cases e with
  | nothing | setCapacity | delete => exact absurd hnew List.not_mem_nil
  | checkIn => exact nomatch hr
  | cancel r =>
    obtain rfl : x = r.canceled now := List.mem_singleton.1 hnew
    exact nomatch hw
  | insert new =>
    obtain rfl : x = new.stored (s.lastRegistrationId + 1) now := List.mem_singleton.1 hnew
    obtain ⟨numbered, latest⟩ := timely new rfl
    have hdue := due_stored fits numbered (latest.within c.id) hw
    have hprom := (Store.mem_ids_promoted_iff now).2 ⟨⟨_, hx, hid, hw⟩, sits⟩
    obtain ⟨q, hq, hqid, -, -, hqdue⟩ := Store.mem_ids_promoted.1 hprom
    obtain rfl := Table.eq_of_key_eq hq hx (hqid.trans hid.symm)
    exact nomatch hdue.symm.trans hqdue

/-- Who waited before an edit and sits in the end, waits after the edit. -/
theorem has_waitlisted_apply (fits : e.Fits c s) (timely : e.IsTimely now s) {id : Int}
    (waits : s.Has id .waitlisted) (sits : (e.result c now s).Has id .confirmed) :
    e.reseats = true ∧ (e.apply c now s).Has id .waitlisted := by
  obtain ⟨r, hr, hid, hw⟩ := waits
  obtain ⟨x, hx, hxid, hsits⟩ := sits
  cases becomes fits (fun new h => (timely new h).1) hr hx (hxid.trans hid.symm) with
  | canceled => exact nomatch hsits
  | checkedIn => exact nomatch hw.symm.trans hsits
  | passedOver q => exact nomatch hw.symm.trans hsits
  | reseated reseats stays => exact ⟨reseats, r, stays, hid, hw⟩

/-- **Promoted are those who waited before and sit afterwards.** -/
theorem promoted_iff (fits : e.Fits c s) (timely : e.IsTimely now s) (id : Int) :
    id ∈ (e.promoted c now s).map Registration.id ↔
      s.Has id .waitlisted ∧ (e.result c now s).Has id .confirmed := by
  cases hr : e.reseats with
  | false =>
    cases e with
    | checkIn r =>
      refine ⟨fun h => absurd h List.not_mem_nil, fun h => ?_⟩
      exact nomatch (has_waitlisted_apply fits timely h.1 h.2).1
    | nothing | insert | cancel | setCapacity | delete => exact nomatch hr
  | true =>
    have hresult : e.result c now s = (e.apply c now s).seated (e.classAfter c now) now := by
      rw [result, if_pos hr]
    have hpromoted : e.promoted c now s = (e.apply c now s).promoted (e.classAfter c now) := by
      rw [promoted, if_pos hr]
    rw [hpromoted, Store.mem_ids_promoted_iff now, ← hresult]
    constructor
    · exact fun h => ⟨has_waitlisted_of_promoted fits timely hr h.1 h.2, h.2⟩
    · exact fun h => ⟨(has_waitlisted_apply fits timely h.1 h.2).2, h.2⟩

theorem nodup_ids_promoted (e : Edit) (c : Class) (now : Instant) (s : Store) :
    ((e.promoted c now s).map Registration.id).Nodup := by
  unfold promoted
  split
  · exact Store.nodup_ids_promoted _ _
  · exact List.nodup_nil

end Edit

/-! ### Operations -/

namespace Operation

/-- The registration that an operation has just stored. -/
def created? : (op : Operation) → op.Answer → Option Registration
  | create .., a => some a.registration
  | cancelByCode _, _ | cancelById _, _ | setCapacity .., _ | checkIn _, _ | delete _, _
  | rebalance _, _ => none

variable {st : EnrollmentSettings} {op : Operation} {c : Class} {e : Edit} {now : Instant}
  {s : Store}

theorem Asks.isTimely (h : Asks st now s op c e)
    (timely : ∀ childId classId, op = .create childId classId → s.IsNumbered ∧ s.NoneAfter now) :
    e.IsTimely now s := by
  intro new he
  cases h with
  | create => exact timely _ _ rfl
  | cancelByCode | cancelById | setCapacity | checkIn | delete | rebalance => exact nomatch he

theorem promoted_eq_nil_of_checkIn {code : String} (h : Asks st now s (.checkIn code) c e) :
    e.promoted c now s = [] := by
  cases h
  rfl

/-- A registration that has just been stored is not among those promoted. -/
theorem Asks.id_ne_of_created {a : op.Answer} {r q : Registration} (asked : Asks st now s op c e)
    (timely : e.IsTimely now s)
    (reported : op.Reports (e.result c now s) (e.promoted c now s) a)
    (created : op.created? a = some r) (hq : q ∈ e.promoted c now s) : q.id ≠ r.id := by
  cases asked with
  | cancelByCode | cancelById | setCapacity | checkIn | delete | rebalance =>
    exact nomatch created
  | @create childId c child zone code stored known isOpen zoned single apart drawn free =>
    obtain rfl := Option.some.inj created
    have fits := (Asks.create stored known isOpen zoned single apart drawn free).fits
    obtain ⟨⟨x, hx, hid, -⟩, -⟩ :=
      (Edit.promoted_iff fits timely q.id).1 (List.mem_map_of_mem hq)
    have hle := (timely _ rfl).1 x hx
    have hnew : a.registration.id = s.lastRegistrationId + 1 := reported.1
    omega

section Effect

variable {d mid : Desk} {x : Except Error (op.Answer × List Registration)}

theorem Effect.calls_eq (h : Effect st op d x mid) : mid.calls = d.calls := by
  cases h <;> rfl

theorem Effect.promoted_iff (h : Effect st op d x mid)
    (timely : ∀ childId classId, op = .create childId classId →
      d.store.IsNumbered ∧ d.store.NoneAfter d.now) :
    ((op.promotedOf x).map Registration.id).Nodup ∧
      ∀ id, id ∈ (op.promotedOf x).map Registration.id ↔
        d.store.Has id .waitlisted ∧ mid.store.Has id .confirmed := by
  -- whoever waits in a store does not sit in it
  have hsame : ∀ id, id ∈ ([] : List Registration).map Registration.id ↔
      d.store.Has id .waitlisted ∧ d.store.Has id .confirmed := fun id =>
    ⟨fun h => absurd h List.not_mem_nil, fun h => nomatch h.1.unique h.2⟩
  cases h with
  | fails e draws clashes => exact ⟨List.nodup_nil, hsame⟩
  | leaves a draws clashes found => exact ⟨List.nodup_nil, hsame⟩
  | writes c e a draws clashes sound asked reported affords =>
    exact ⟨Edit.nodup_ids_promoted e c d.now d.store,
      Edit.promoted_iff asked.fits (asked.isTimely timely)⟩

theorem Effect.promotedOf_eq_nil (h : Effect st op d x mid)
    (quiet : op.carriedOut (x.map Prod.fst) = false ∨ ∃ code, op = .checkIn code) :
    op.promotedOf x = [] := by
  cases h with
  | fails e draws clashes => rfl
  | leaves a draws clashes found => rfl
  | writes c e a draws clashes sound asked reported affords =>
    rcases quiet with hno | ⟨code, rfl⟩
    · have hno : op.carriedOut (.ok a) = false := hno
      rw [reported.carriedOut] at hno
      exact nomatch hno
    · exact promoted_eq_nil_of_checkIn asked

theorem Effect.id_ne_of_created (h : Effect st op d x mid)
    (timely : ∀ childId classId, op = .create childId classId →
      d.store.IsNumbered ∧ d.store.NoneAfter d.now) {a : op.Answer} {r q : Registration}
    (answer : x.map Prod.fst = .ok a) (created : op.created? a = some r)
    (hq : q ∈ op.promotedOf x) : q.id ≠ r.id := by
  cases h with
  | fails e draws clashes => exact nomatch answer
  | leaves a draws clashes found => exact absurd hq List.not_mem_nil
  | writes c e a draws clashes sound asked reported affords =>
    obtain rfl := Except.ok.inj answer
    exact asked.id_ne_of_created (asked.isTimely timely) reported created hq

end Effect

end Operation

/-- **One notice for each promotion.** Every listener hears, once each and after the commit, of
those who waited before the operation and sit after it, and of nobody else. An operation that fails,
a cancellation that finds nothing to cancel and a check-in call no one, and a registration is not
announced by the operation that stores it. -/
theorem Desk.one_notice_per_promotion (office : Office) (op : Operation) (d : Desk)
    (alone : d.rival = none)
    (timely : ∀ childId classId, op = .create childId classId →
      d.store.IsNumbered ∧ d.store.NoneAfter d.now) :
    ∃ calls, (runOn (op.perform office) d).2.calls = d.calls ++ calls ∧
      (∀ position < office.listeners.length,
        ((Service.heardBy position calls).map Registration.id).Nodup ∧
        ∀ id, id ∈ (Service.heardBy position calls).map Registration.id ↔
          d.store.Has id .waitlisted ∧ (runOn (op.perform office) d).2.store.Has id .confirmed) ∧
      (∀ call ∈ calls, call.listener < office.listeners.length) ∧
      (op.carriedOut (runOn (op.perform office) d).1 = false ∨ (∃ code, op = .checkIn code) →
        calls = []) ∧
      (∀ a r, (runOn (op.perform office) d).1 = .ok a → op.created? a = some r →
        ∀ call ∈ calls, call.registration.id ≠ r.id) ∧
      runOn (op.perform office) d =
        Service.told office (runOn (op.settle office.settings.enrollment) d) ∧
      (runOn (op.settle office.settings.enrollment) d).2.calls = d.calls ∧
      (runOn (op.settle office.settings.enrollment) d).2.store =
        (runOn (op.perform office) d).2.store := by
  obtain ⟨x, mid, sent, heffect, hsettle, hrun⟩ := op.perform_effect office alone
  have hanswer : (runOn (op.perform office) d).1 = x.map Prod.fst := by rw [hrun]
  have hstore : (runOn (op.perform office) d).2.store = mid.store := by rw [hrun]
  have hcalls : (runOn (op.perform office) d).2.calls =
      mid.calls ++ Service.callsAbout office (op.promotedOf x) := by rw [hrun]
  refine ⟨Service.callsAbout office (op.promotedOf x), ?_, ?_, ?_, ?_, ?_,
    op.runOn_perform office d, ?_, ?_⟩
  · rw [hcalls, heffect.calls_eq]
  · intro position h
    rw [Service.heardBy_callsAbout office _ h, hstore]
    exact heffect.promoted_iff timely
  · exact fun call h => (Service.of_mem_callsAbout h).2
  · intro quiet
    rw [hanswer] at quiet
    rw [heffect.promotedOf_eq_nil quiet]
    rfl
  · intro a r answer created call h
    rw [hanswer] at answer
    exact heffect.id_ne_of_created timely answer created (Service.of_mem_callsAbout h).1
  · rw [hsettle, heffect.calls_eq]
  · rw [hsettle, hstore]

/-- When the seat is given up, both listeners hear that the child who waits has it. -/
theorem Sample.late_is_announced :
    desk.rival = none ∧
      (∀ childId classId, Operation.cancelById 1 = .create childId classId →
        desk.store.IsNumbered ∧ desk.store.NoneAfter desk.now) ∧
      ∃ calls, (runOn ((Operation.cancelById 1).perform office) desk).2.calls = calls ∧
        ∀ position < 2, late.id ∈ (Service.heardBy position calls).map Registration.id := by
  have timely : ∀ childId classId, Operation.cancelById 1 = .create childId classId →
      desk.store.IsNumbered ∧ desk.store.NoneAfter desk.now := fun _ _ _ => by decide
  obtain ⟨calls, hcalls, hheard, -⟩ :=
    Desk.one_notice_per_promotion office (.cancelById 1) desk rfl timely
  refine ⟨rfl, timely, calls, hcalls, fun position hp => ?_⟩
  rw [(hheard position hp).2]
  exact ⟨⟨late, List.mem_cons_of_mem _ List.mem_cons_self, rfl, rfl⟩,
    ⟨_, List.mem_cons_of_mem _ List.mem_cons_self, rfl, rfl⟩⟩

end EnrollmentDesk
