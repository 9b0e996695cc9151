import EnrollmentDesk.Proofs.Retired

/-!
# Canceled for good

A registration that is canceled has come to rest (`Desk.Rests`): in every run from there it is
stored as it was when it was canceled, or has been removed, and nobody hears of it, no answer names
it among those who got a seat, and it is not checked in. What is written is settled by
`Store.Retired`; what is said needs the answers as well, which are read off the sessions here.

It follows that a registration is canceled at most once. A cancellation that is carried out finds
its registration not canceled, so it is the first; from then on the row is retired, and all other
requests to cancel it, however many there are and in whatever order they come, find it canceled and
leave the store as it is.

## Main statements

* `Operation.row_of_cancellation?` — what a cancellation finds, and what it stores;
* `Desk.rests_of_retired` — a canceled registration is at rest;
* `Desk.timesCanceled_le_one` — it is canceled at most once in a run;
* `Desk.canceled_is_terminal` — all of it, from any store whose numbers have been given out.
-/

namespace EnrollmentDesk

/-! ### Answers -/

/-- What an operation answers, whether what it wrote is kept or not. -/
def Verdict.answer {α : Type} : Verdict α → α
  | keep a _ => a
  | drop a => a

namespace Enrollment

variable {s t : Session} {found : Registration}

theorem of_runOn_cancelFound {v : Verdict Cancellation}
    (h : runOn (cancelFound found) s = (.ok v, t)) :
    v.answer.registration.id = found.id ∧ (v.answer.already = true → v.answer.promoted = []) := by
  unfold cancelFound at h
  split at h
  · obtain rfl := Except.ok.inj (Prod.mk.inj h).1
    exact ⟨rfl, fun _ => rfl⟩
  · obtain ⟨_, s₁, -, h⟩ := runOn_bind_eq_ok h
    obtain ⟨current, s₂, hcurrent, h⟩ := runOn_bind_eq_ok h
    have hid : current.id = found.id := Table.key_of_get? (Tx.of_runOn_registration hcurrent)
    split at h
    · obtain rfl := Except.ok.inj (Prod.mk.inj h).1
      exact ⟨hid, fun _ => rfl⟩
    · obtain ⟨_, s₃, -, h⟩ := runOn_bind_eq_ok h
      obtain ⟨promoted, s₄, -, h⟩ := runOn_bind_eq_ok h
      obtain ⟨r, s₅, hr, h⟩ := runOn_bind_eq_ok h
      have hid' : r.id = current.id := Table.key_of_get? (Tx.of_runOn_registration hr)
      obtain rfl := Except.ok.inj (Prod.mk.inj h).1
      exact ⟨hid'.trans hid, (nomatch ·)⟩

/-- Only those who sit are checked in. -/
theorem of_runOn_checkIn {code : String} {v : Verdict Registration}
    (h : runOn (checkIn code) s = (.ok v, t)) : v.answer.status = .confirmed := by
  unfold checkIn at h
  obtain ⟨_, s₁, -, h⟩ := runOn_bind_eq_ok h
  obtain ⟨_, s₂, -, h⟩ := runOn_bind_eq_ok h
  obtain ⟨current, s₃, -, h⟩ := runOn_bind_eq_ok h
  dsimp only at h
  split at h
  · exact nomatch h
  · next sits =>
    split at h
    · exact nomatch h
    · obtain ⟨_, s₄, -, h⟩ := runOn_bind_eq_ok h
      obtain ⟨_, s₅, -, h⟩ := runOn_bind_eq_ok h
      obtain rfl := Except.ok.inj (Prod.mk.inj h).1
      exact not_not.1 sits

end Enrollment

namespace Service

/-- What the desk answers is what the session has answered. -/
theorem of_runOn_perform {α : Type} {office : Office} (work : Tx (Verdict α)) {d : Desk} {a : α}
    (h : (runOn (perform office work) d).1 = .ok a) :
    ∃ v s, runOn work d.session = (.ok v, s) ∧ v.answer = a := by
  rw [runOn_perform] at h
  cases online : d.online with
  | false =>
    unfold settle at h
    rw [runOn_bind_error (runOn_connect_of_offline online)] at h
    exact nomatch h
  | true =>
    rw [runOn_settle work online] at h
    rcases hwork : runOn work d.session with ⟨e | ⟨b, promoted⟩ | b, s⟩
    · rw [hwork] at h
      exact nomatch h
    · rw [hwork] at h
      cases hfails : d.commitFails with
      | true =>
        rw [hfails] at h
        exact nomatch h
      | false =>
        rw [hfails] at h
        exact ⟨_, s, rfl, Except.ok.inj h⟩
    · rw [hwork] at h
      exact ⟨_, s, rfl, Except.ok.inj h⟩

/-- A cancellation is about the registration that was found, and one that was canceled before gives
nobody a seat. -/
theorem of_runOn_perform_cancelFound {office : Office} (look : Tx Registration) {d : Desk}
    {a : Cancellation}
    (h : (runOn (perform office (look >>= Enrollment.cancelFound)) d).1 = .ok a) :
    ∃ r t, runOn look d.session = (.ok r, t) ∧ a.registration.id = r.id ∧
      (a.already = true → a.promoted = []) := by
  obtain ⟨v, s, hrun, rfl⟩ := of_runOn_perform _ h
  obtain ⟨r, t, hr, hrun⟩ := runOn_bind_eq_ok hrun
  exact ⟨r, t, hr, Enrollment.of_runOn_cancelFound hrun⟩

end Service

namespace Operation

/-- Who got a seat, as the answer of an operation has it. -/
def promotedIn : (op : Operation) → op.Answer → List Registration
  | cancelByCode _, a | cancelById _, a => a.promoted
  | setCapacity .., a | delete _, a | rebalance _, a => a
  | create .., _ | checkIn _, _ => []

/-- The registration that is to be canceled, if that is what is asked for. -/
def toCancel? (s : Store) : Operation → Option Registration
  | cancelByCode code => s.registrationByCode (Text.trim code)
  | cancelById id => s.registrations.get? id
  | create .. | setCapacity .. | checkIn _ | delete _ | rebalance _ => none

theorem get?_of_toCancel? {s : Store} {op : Operation} {r : Registration}
    (h : op.toCancel? s = some r) : s.registrations.get? r.id = some r := by
  cases op with
  | cancelByCode code => exact Store.get?_of_registrationByCode h
  | cancelById id =>
    have hid : r.id = id := Table.key_of_get? h
    rw [hid]
    exact h
  | create | setCapacity | checkIn | delete | rebalance => exact nomatch h

/-- What became of a cancellation, if it was asked for and answered. -/
def cancellation? : (op : Operation) → Except Error op.Answer → Option Cancellation
  | cancelByCode _, .ok a | cancelById _, .ok a => some a
  | cancelByCode _, .error _ | cancelById _, .error _ => none
  | create .., _ | setCapacity .., _ | checkIn _, _ | delete _, _ | rebalance _, _ => none

variable {office : Office} {op : Operation} {d : Desk}

theorem eq_ok_of_cancellation? {x : Except Error op.Answer} {a : Cancellation}
    (h : op.cancellation? x = some a) :
    ∃ b, x = .ok b ∧ op.foundCanceled b = a.already := by
  cases op with
  | cancelByCode code | cancelById id =>
    cases x with
    | error e => exact nomatch h
    | ok b =>
      obtain rfl := Option.some.inj h
      exact ⟨b, rfl, rfl⟩
  | create | setCapacity | checkIn | delete | rebalance => exact nomatch h

/-- **The registration that a cancellation is about** is the one that was to be canceled, and one
that was canceled before gives nobody a seat. -/
theorem of_cancellation? {a : Cancellation}
    (h : op.cancellation? (runOn (op.perform office) d).1 = some a) :
    ∃ r, op.toCancel? d.store = some r ∧ a.registration.id = r.id ∧
      (a.already = true → a.promoted = []) := by
  obtain ⟨b, hb, -⟩ := eq_ok_of_cancellation? h
  rw [hb] at h
  cases op with
  | cancelByCode code =>
    obtain rfl := Option.some.inj h
    obtain ⟨r, t, hr, answer⟩ :=
      Service.of_runOn_perform_cancelFound (Tx.registrationByCode (Text.trim code)) hb
    exact ⟨r, Tx.of_runOn_registrationByCode hr, answer⟩
  | cancelById id =>
    obtain rfl := Option.some.inj h
    obtain ⟨r, t, hr, answer⟩ :=
      Service.of_runOn_perform_cancelFound (Tx.registration id) hb
    exact ⟨r, Tx.of_runOn_registration hr, answer⟩
  | create | setCapacity | checkIn | delete | rebalance => exact nomatch h

/-- **A cancellation that is carried out** finds the registration not canceled, and stores it as
canceled. -/
theorem row_of_cancellation? (alone : d.rival = none) {a : Cancellation}
    (h : op.cancellation? (runOn (op.perform office) d).1 = some a) (first : a.already = false) :
    ∃ r, op.toCancel? d.store = some r ∧ a.registration.id = r.id ∧ r.status ≠ .canceled ∧
      (runOn (op.perform office) d).2.store.registrations.get? r.id =
        some (r.canceled d.now) := by
  obtain ⟨r, found, hid, -⟩ := of_cancellation? h
  obtain ⟨b, hb, halready⟩ := eq_ok_of_cancellation? h
  have carried : op.carriedOut (runOn (op.perform office) d).1 = true := by
    rw [hb, carriedOut, halready, first]
    rfl
  obtain ⟨c, e, asked, hstore⟩ := store_of_carriedOut alone carried
  have hrow : ∀ q, (runOn (op.perform office) d).2.store = ((Edit.cancel q).result c d.now
      d.store).committed ((Edit.cancel q).writes c d.now d.store) →
      (runOn (op.perform office) d).2.store.registrations.get? q.id = some (q.canceled d.now) := by
    intro q hq
    rw [hq]
    exact Edit.get?_result_cancel q c d.now d.store
  refine ⟨r, found, hid, ?_⟩
  cases asked with
  | cancelByCode hfound _ _ active =>
    obtain rfl := Option.some.inj (hfound.symm.trans found)
    exact ⟨active, hrow _ hstore⟩
  | cancelById hfound _ _ active =>
    obtain rfl := Option.some.inj (hfound.symm.trans found)
    exact ⟨active, hrow _ hstore⟩
  | create | setCapacity | checkIn | delete | rebalance =>
    exact absurd found.symm (Option.some_ne_none r)

/-- The answer that a registration was canceled before names nobody who got a seat. -/
theorem promotedIn_eq_nil_of_foundCanceled {a : op.Answer}
    (answer : (runOn (op.perform office) d).1 = .ok a) (found : op.foundCanceled a = true) :
    op.promotedIn a = [] := by
  cases op with
  | cancelByCode | cancelById =>
    have hcancellation := congrArg (cancellation? _) answer
    obtain ⟨-, -, -, hnone⟩ := of_cancellation? (a := a) hcancellation
    exact hnone found
  | create | setCapacity | checkIn | delete | rebalance => exact nomatch found

/-- Nobody is called about an operation that is not carried out. -/
theorem calls_of_not_carriedOut (alone : d.rival = none)
    (h : op.carriedOut (runOn (op.perform office) d).1 = false) :
    (runOn (op.perform office) d).2.calls = d.calls := by
  obtain ⟨x, mid, sent, heffect, -, hrun⟩ := op.perform_effect office alone
  rw [hrun] at h ⊢
  change mid.calls ++ _ = _
  rw [heffect.promotedOf_eq_nil (.inl h), heffect.calls_eq]
  exact List.append_nil _

/-- Whoever the answer of an operation that has been carried out names, has got a seat by it. -/
theorem mem_promoted_of_reports {final : Store} {promoted : List Registration} {a : op.Answer}
    (h : op.Reports final promoted a) {q : Registration} (hq : q ∈ op.promotedIn a) :
    q ∈ promoted := by
  cases op with
  | cancelByCode | cancelById =>
    obtain ⟨-, rfl, -⟩ := h
    exact hq
  | setCapacity | delete | rebalance =>
    obtain rfl : a = promoted := h
    exact hq
  | create | checkIn => exact absurd hq List.not_mem_nil

/-! ### What is said of a retired registration -/

section Retired

variable {r : Registration} (alone : d.rival = none) (h : d.store.Retired r)

include alone h

/-- Nobody hears of a retired registration. -/
theorem calls_of_retired :
    ∃ calls, (runOn (op.perform office) d).2.calls = d.calls ++ calls ∧
      ∀ call ∈ calls, call.registration.id ≠ r.id := by
  obtain ⟨x, mid, sent, heffect, -, hrun⟩ := op.perform_effect office alone
  refine ⟨Service.callsAbout office (op.promotedOf x), ?_, fun call hcall => ?_⟩
  · rw [hrun, ← heffect.calls_eq]
  · have hq := (Service.of_mem_callsAbout hcall).1
    cases heffect with
    | fails | leaves => exact absurd hq List.not_mem_nil
    | writes c e a draws clashes sound asked reported affords =>
      exact Edit.id_ne_of_promoted_of_retired asked.fits h hq

/-- No answer says that a retired registration got a seat. -/
theorem id_ne_of_promotedIn {a : op.Answer} (answer : (runOn (op.perform office) d).1 = .ok a)
    {q : Registration} (hq : q ∈ op.promotedIn a) : q.id ≠ r.id := by
  obtain ⟨x, mid, sent, heffect, -, hrun⟩ := op.perform_effect office alone
  have hx : x.map Prod.fst = .ok a := by rw [← answer, hrun]
  cases heffect with
  | fails => exact nomatch hx
  | leaves b draws clashes found =>
    -- a session that keeps nothing answers only to say that it was canceled before
    obtain rfl := Except.ok.inj hx
    rw [promotedIn_eq_nil_of_foundCanceled answer found] at hq
    exact absurd hq List.not_mem_nil
  | writes c e b draws clashes sound asked reported affords =>
    obtain rfl := Except.ok.inj hx
    exact Edit.id_ne_of_promoted_of_retired asked.fits h (mem_promoted_of_reports reported hq)

/-- A retired registration is not checked in. -/
theorem id_ne_of_checkIn {code : String} {a : Registration}
    (answer : (runOn ((checkIn code).perform office) d).1 = .ok a) : a.id ≠ r.id := by
  obtain ⟨v, s, hwork, hv⟩ := Service.of_runOn_perform (Enrollment.checkIn code) answer
  have sits := Enrollment.of_runOn_checkIn hwork
  rw [hv] at sits
  obtain ⟨x, mid, sent, heffect, -, hrun⟩ := (checkIn code).perform_effect office alone
  rw [hrun] at answer
  cases heffect with
  | fails => exact nomatch answer
  | leaves b draws clashes found => exact nomatch found
  | writes c e b draws clashes sound asked reported affords =>
    obtain rfl := Except.ok.inj answer
    intro hid
    have hrow : (e.result c d.now d.store).registrations.get? b.id = some b := reported
    rw [hid] at hrow
    -- what is stored under its number, if anything, is the canceled registration itself
    rw [(Edit.retired_result asked.fits h d.now).eq_of_get? hrow, h.canceled] at sits
    exact nomatch sits

end Retired

end Operation

/-! ### Runs -/

namespace Event

/-- The event is the removal of a registration, and it is carried out. -/
def Removes (office : Office) (d : Desk) (id : Int) (event : Event) : Prop :=
  event = .operation (.delete id) ∧
    (Operation.delete id).carriedOut (runOn ((Operation.delete id).perform office) d).1 = true

/-- What became of a cancellation, if the event is one and is answered. -/
def cancellation? (office : Office) (d : Desk) : Event → Option Cancellation
  | operation op => op.cancellation? (runOn (op.perform office) d).1
  | clock _ | draws _ | budget _ => none

end Event

namespace Desk

/-- A registration is removed in a run. -/
def RemovedIn (office : Office) (id : Int) : Desk → List Event → Prop
  | _, [] => False
  | d, event :: events =>
    event.Removes office d id ∨ RemovedIn office id (next office d event) events

/-- The answers to all cancellations in a run, in order. -/
def cancellations (office : Office) : Desk → List Event → List Cancellation
  | _, [] => []
  | d, event :: events =>
    (event.cancellation? office d).toList ++ cancellations office (next office d event) events

/-- How often a registration is canceled, as the answers have it. -/
def timesCanceled (id : Int) (answers : List Cancellation) : Nat :=
  answers.countP fun a => a.registration.id == id && !a.already

/-- A registration is at rest: whatever happens later, it stays as it is until it is removed, and no
one hears of it, no answer says that it got a seat or was checked in. -/
structure Rests (office : Office) (d : Desk) (r : Registration) (later : List Event) : Prop where
  stays : ¬ RemovedIn office r.id d later →
    (run office d later).store.registrations.get? r.id = some r
  gone : RemovedIn office r.id d later →
    (run office d later).store.registrations.get? r.id = none
  unheard : ∃ calls, (run office d later).calls = d.calls ++ calls ∧
    ∀ call ∈ calls, call.registration.id ≠ r.id
  unpromoted : ∀ (op : Operation) (a : op.Answer),
    (runOn (op.perform office) (run office d later)).1 = .ok a →
      ∀ q ∈ op.promotedIn a, q.id ≠ r.id
  unchecked : ∀ (code : String) (a : Registration),
    (runOn ((Operation.checkIn code).perform office) (run office d later)).1 = .ok a → a.id ≠ r.id

variable (office : Office) {d : Desk} {r : Registration}

theorem isNumbered_run (alone : d.rival = none) (numbered : d.store.IsNumbered)
    (events : List Event) : (run office d events).store.IsNumbered :=
  run_induction (P := Store.IsNumbered) alone numbered (fun _ _ h => h)
    (fun _ now _ _ _ asked h => Edit.isNumbered_result asked.fits h now) events

theorem isNumbered_next (alone : d.rival = none) (numbered : d.store.IsNumbered) (event : Event) :
    (next office d event).store.IsNumbered :=
  isNumbered_run office alone numbered [event]

theorem retired_run (alone : d.rival = none) (h : d.store.Retired r) (events : List Event) :
    (run office d events).store.Retired r := by
  refine run_induction (P := fun s => s.Retired r) alone h ?_ ?_ events
  · exact fun s budget hs => ⟨hs.canceled, hs.numbered, hs.given, hs.row⟩
  · intro op now s c e asked hs
    obtain ⟨canceled, numbered, given, row⟩ := Edit.retired_result asked.fits hs now
    exact ⟨canceled, numbered, given, row⟩

theorem retired_next (alone : d.rival = none) (h : d.store.Retired r) (event : Event) :
    (next office d event).store.Retired r :=
  retired_run office alone h [event]

/-- **One event** leaves a retired registration as it is, or removes it. -/
theorem get?_next_of_retired (alone : d.rival = none) (h : d.store.Retired r) (event : Event) :
    (¬ event.Removes office d r.id ∧
        (next office d event).store.registrations.get? r.id = d.store.registrations.get? r.id) ∨
      (event.Removes office d r.id ∧
        (next office d event).store.registrations.get? r.id = none) := by
  cases event with
  | clock | draws | budget => exact .inl ⟨(nomatch ·.1), rfl⟩
  | operation op =>
    cases carried : op.carriedOut (runOn (op.perform office) d).1 with
    | false =>
      have hstore : (next office d (.operation op)).store = d.store :=
        Operation.store_of_not_carriedOut alone carried
      refine .inl ⟨?_, by rw [hstore]⟩
      rintro ⟨hop, hcarried⟩
      obtain rfl := Event.operation.inj hop
      exact nomatch carried.symm.trans hcarried
    | true =>
      obtain ⟨c, e, asked, hstore⟩ := Operation.store_of_carriedOut alone carried
      have hget : (next office d (.operation op)).store.registrations.get? r.id =
          (e.result c d.now d.store).registrations.get? r.id := by
        change (runOn (op.perform office) d).2.store.registrations.get? r.id = _
        rw [hstore]
        rfl
      rw [hget]
      by_cases hop : op = .delete r.id
      · subst hop
        refine .inr ⟨⟨rfl, carried⟩, ?_⟩
        -- what is removed is the row under the number it was asked for
        generalize hid : r.id = id at asked
        cases asked
        exact Edit.get?_result_delete _ c d.now d.store
      · refine .inl ⟨fun h => hop (Event.operation.inj h.1), ?_⟩
        rcases Edit.get?_result_of_retired asked.fits h d.now with same | ⟨rfl, -⟩
        · exact same
        · cases asked
          exact absurd rfl hop

/-- What is gone does not come back. -/
theorem get?_run_of_gone (alone : d.rival = none) (h : d.store.Retired r)
    (gone : d.store.registrations.get? r.id = none) (later : List Event) :
    (run office d later).store.registrations.get? r.id = none := by
  induction later generalizing d with
  | nil => exact gone
  | cons event later ih =>
    refine ih (next_rival alone event) (retired_next office alone h event) ?_
    rcases get?_next_of_retired office alone h event with ⟨-, same⟩ | ⟨-, removed⟩
    · exact same.trans gone
    · exact removed

/-- **A retired registration stays as it is** until it is removed, and then it is gone. -/
theorem get?_run_of_retired (alone : d.rival = none) (h : d.store.Retired r)
    (there : d.store.registrations.get? r.id = some r) (later : List Event) :
    (¬ RemovedIn office r.id d later →
        (run office d later).store.registrations.get? r.id = some r) ∧
      (RemovedIn office r.id d later →
        (run office d later).store.registrations.get? r.id = none) := by
  -- over the events: the row is there up to the first one that removes it, and gone ever after
  induction later generalizing d with
  | nil => exact ⟨fun _ => there, False.elim⟩
  | cons event later ih =>
    have alone' : (next office d event).rival = none := next_rival alone event
    have h' := retired_next office alone h event
    rcases get?_next_of_retired office alone h event with ⟨hkeeps, same⟩ | ⟨hremoves, removed⟩
    · obtain ⟨stays, gone⟩ := ih alone' h' (same.trans there)
      exact ⟨fun hno => stays fun hin => hno (.inr hin),
        fun hin => gone (hin.resolve_left hkeeps)⟩
    · exact ⟨fun hno => absurd (.inl hremoves) hno,
        fun _ => get?_run_of_gone office alone' h' removed later⟩

theorem calls_next_of_retired (alone : d.rival = none) (h : d.store.Retired r) (event : Event) :
    ∃ calls, (next office d event).calls = d.calls ++ calls ∧
      ∀ call ∈ calls, call.registration.id ≠ r.id := by
  cases event with
  | operation op => exact Operation.calls_of_retired alone h
  | clock | draws | budget =>
    exact ⟨[], (List.append_nil _).symm, fun _ h => absurd h List.not_mem_nil⟩

/-- Nobody hears of a retired registration in a run. -/
theorem calls_run_of_retired (alone : d.rival = none) (h : d.store.Retired r)
    (later : List Event) :
    ∃ calls, (run office d later).calls = d.calls ++ calls ∧
      ∀ call ∈ calls, call.registration.id ≠ r.id := by
  induction later generalizing d with
  | nil => exact ⟨[], (List.append_nil _).symm, fun _ h => absurd h List.not_mem_nil⟩
  | cons event later ih =>
    obtain ⟨calls, hcalls, hne⟩ := calls_next_of_retired office alone h event
    obtain ⟨calls', hcalls', hne'⟩ :=
      ih (next_rival alone event) (retired_next office alone h event)
    refine ⟨calls ++ calls', ?_, fun call hcall => ?_⟩
    · change (run office (next office d event) later).calls = _
      rw [hcalls', hcalls, List.append_assoc]
    · rcases List.mem_append.1 hcall with hcall | hcall
      · exact hne call hcall
      · exact hne' call hcall

/-- **A registration that is stored as canceled is at rest.** -/
theorem rests_of_retired (alone : d.rival = none) (h : d.store.Retired r)
    (there : d.store.registrations.get? r.id = some r) (later : List Event) :
    Rests office d r later where
  stays := (get?_run_of_retired office alone h there later).1
  gone := (get?_run_of_retired office alone h there later).2
  unheard := calls_run_of_retired office alone h later
  unpromoted _ _ answer _ hq :=
    Operation.id_ne_of_promotedIn (run_rival office alone later) (retired_run office alone h later)
      answer hq
  unchecked _ _ answer :=
    Operation.id_ne_of_checkIn (run_rival office alone later) (retired_run office alone h later)
      answer

/-! ### How often a registration is canceled -/

theorem timesCanceled_append (id : Int) (l l' : List Cancellation) :
    timesCanceled id (l ++ l') = timesCanceled id l + timesCanceled id l' :=
  List.countP_append

/-- An answer counts if it is about the registration and says that it was canceled by it. -/
theorem timesCanceled_toList (id : Int) (a? : Option Cancellation) :
    timesCanceled id a?.toList = 0 ∨
      ∃ a, a? = some a ∧ a.registration.id = id ∧ a.already = false ∧
        timesCanceled id a?.toList = 1 := by
  cases a? with
  | none => exact .inl rfl
  | some a =>
    by_cases ha : a.registration.id = id ∧ a.already = false
    · refine .inr ⟨a, rfl, ha.1, ha.2, ?_⟩
      simp [timesCanceled, ha]
    · refine .inl ?_
      simpa [timesCanceled] using ha

/-- A retired registration is not canceled again. -/
theorem timesCanceled_of_retired (alone : d.rival = none) (h : d.store.Retired r)
    (later : List Event) : timesCanceled r.id (cancellations office d later) = 0 := by
  -- being retired is what carries over, not the row: it may have been removed on the way
  induction later generalizing d with
  | nil => rfl
  | cons event later ih =>
    rw [cancellations, timesCanceled_append,
      ih (next_rival alone event) (retired_next office alone h event), Nat.add_zero]
    rcases timesCanceled_toList r.id (event.cancellation? office d) with
      hzero | ⟨a, ha, hid, first, -⟩
    · exact hzero
    · -- the one who is canceled was not, and has the number of one who was
      exfalso
      cases event with
      | clock | draws | budget => exact nomatch ha
      | operation op =>
        obtain ⟨q, found, hq, active, -⟩ := Operation.row_of_cancellation? alone ha first
        have hrow := Operation.get?_of_toCancel? found
        exact h.id_ne hrow active (hid.symm.trans hq)

/-- **A registration is canceled at most once in a run.** -/
theorem timesCanceled_le_one (alone : d.rival = none) (numbered : d.store.IsNumbered)
    (events : List Event) (id : Int) : timesCanceled id (cancellations office d events) ≤ 1 := by
  -- up to the first cancellation nothing is counted; the events after it count nothing either
  induction events generalizing d with
  | nil => exact Nat.zero_le 1
  | cons event events ih =>
    have alone' : (next office d event).rival = none := next_rival alone event
    have numbered' := isNumbered_next office alone numbered event
    rw [cancellations, timesCanceled_append]
    rcases timesCanceled_toList id (event.cancellation? office d) with
      hzero | ⟨a, ha, hid, first, hone⟩
    · rw [hzero, Nat.zero_add]
      exact ih alone' numbered'
    · -- from now on it is retired
      cases event with
      | clock | draws | budget => exact nomatch ha
      | operation op =>
        obtain ⟨q, -, hq, -, hrow⟩ := Operation.row_of_cancellation? alone ha first
        have hretired : (next office d (.operation op)).store.Retired (q.canceled d.now) :=
          .of_mem numbered' (Table.mem_of_get? hrow) rfl
        have hnever := timesCanceled_of_retired office alone' hretired events
        obtain rfl : q.id = id := hq.symm.trans hid
        have hnever : timesCanceled q.id (cancellations office _ events) = 0 := hnever
        exact Nat.le_of_eq (by rw [hone, hnever, Nat.add_zero])

end Desk

/-- **Canceled for good.** In every run from a store whose numbers have been given out, a canceled
registration is at rest. So it is canceled at most once, however often that is asked for: the one
request that does it finds it not canceled and stores it so, without its check-in, and the others
change nothing and give nobody a seat. -/
theorem Desk.canceled_is_terminal (office : Office) (d : Desk) (alone : d.rival = none)
    (numbered : d.store.IsNumbered) (events : List Event) :
    (∀ r ∈ (run office d events).store.registrations, r.status = .canceled →
      ∀ later, Rests office (run office d events) r later) ∧
    (∀ id, timesCanceled id (cancellations office d events) ≤ 1) ∧
    ∀ op : Operation,
      (∀ a, op.cancellation? (runOn (op.perform office) (run office d events)).1 = some a →
        ∃ r, op.toCancel? (run office d events).store = some r ∧ a.registration.id = r.id ∧
          (a.already = false → r.status ≠ .canceled ∧
            (runOn (op.perform office) (run office d events)).2.store.registrations.get? r.id =
              some (r.canceled (run office d events).now))) ∧
      (op.carriedOut (runOn (op.perform office) (run office d events)).1 = false →
        (runOn (op.perform office) (run office d events)).2.store =
            (run office d events).store ∧
          (runOn (op.perform office) (run office d events)).2.calls =
            (run office d events).calls ∧
          ∀ a, (runOn (op.perform office) (run office d events)).1 = .ok a →
            op.promotedIn a = []) := by
  have alone' := run_rival office alone events
  have numbered' := isNumbered_run office alone numbered events
  refine ⟨fun r hr canceled later => ?_, timesCanceled_le_one office alone numbered events,
    fun op => ?_⟩
  · have retired := Store.Retired.of_mem numbered' hr canceled
    exact rests_of_retired office alone' retired (Table.get?_of_mem hr) later
  refine ⟨fun a ha => ?_, fun hno => ⟨?_, ?_, fun a answer => ?_⟩⟩
  · obtain ⟨r, found, hid, -⟩ := Operation.of_cancellation? ha
    refine ⟨r, found, hid, fun first => ?_⟩
    obtain ⟨q, found', -, active, hrow⟩ := Operation.row_of_cancellation? alone' ha first
    obtain rfl := Option.some.inj (found.symm.trans found')
    exact ⟨active, hrow⟩
  · exact Operation.store_of_not_carriedOut alone' hno
  · exact Operation.calls_of_not_carriedOut alone' hno
  · rw [answer, Operation.carriedOut] at hno
    exact Operation.promotedIn_eq_nil_of_foundCanceled answer (by simpa using hno)

/-- The seat is given up twice. Only the first time counts, and what is stored then is at rest. -/
theorem Sample.early_is_canceled_once :
    desk.rival = none ∧ desk.store.IsNumbered ∧
      (Desk.cancellations office desk [.operation (.cancelById 1),
        .operation (.cancelById 1)]).map Cancellation.already = [false, true] ∧
      Desk.timesCanceled 1 (Desk.cancellations office desk [.operation (.cancelById 1),
        .operation (.cancelById 1)]) ≤ 1 ∧
      ∀ later, Desk.Rests office (Desk.run office desk [.operation (.cancelById 1)])
        (early.canceled ⟨10⟩) later := by
  have numbered : desk.store.IsNumbered := by decide
  obtain ⟨rests, -, -⟩ :=
    Desk.canceled_is_terminal office desk rfl numbered [.operation (.cancelById 1)]
  obtain ⟨-, once, -⟩ := Desk.canceled_is_terminal office desk rfl numbered
    [.operation (.cancelById 1), .operation (.cancelById 1)]
  exact ⟨rfl, numbered, rfl, once 1, rests _ List.mem_cons_self rfl⟩

end EnrollmentDesk
