import EnrollmentDesk.Desk.Registering
import EnrollmentDesk.Proofs.Operation

/-!
# What the desk does

The desk runs an operation in two parts. `Service.settle` runs the session and keeps what it wrote
or drops it; nobody has been told anything then. After that the promotions are announced, which
touches nothing but the record of what was sent and who was called (`Service.runOn_announce`).

`Operation.Effect` is what settling an operation comes to: it fails, it leaves all as it is, or the
store is the one after the edit and the rebalance, paid for and committed. `Operation.runOn_perform`
says that every operation has such an effect and makes exactly the calls that go with it.

A run (`Desk.run`) is any sequence of operations, between which the time may be set, the numbers to
be drawn and the budget.
-/

namespace EnrollmentDesk

/-! ### Telling -/

/-- The chat that a request is for. -/
def Request.chatId : Request → Int
  | message chatId _ _ => chatId
  | photo chatId _ => chatId

/-- The request is for the chat in which the family of the registration gets its notices. -/
def Request.Notifies (s : Store) (r : Registration) (q : Request) : Prop :=
  ∃ whom, s.recipient? r.id = some whom ∧ q.chatId = whom.chatId

namespace Service

variable {α β : Type}

/-- A step that, on a store, at most sends something of a kind. -/
def OnlySends (s : Store) (p : Request → Prop) (x : Service α) : Prop :=
  ∀ d : Desk, d.store = s →
    ∃ sent, (runOn x d).2 = { d with sent := d.sent ++ sent } ∧ ∀ q ∈ sent, p q

namespace OnlySends

variable {s : Store} {p : Request → Prop}

/-- A step that leaves the desk as it is sends nothing. -/
theorem of_eq {x : Service α} (h : ∀ d, d.store = s → (runOn x d).2 = d) : OnlySends s p x := by
  intro d hd
  refine ⟨[], ?_, fun _ hq => absurd hq List.not_mem_nil⟩
  rw [h d hd, List.append_nil]

theorem pure (a : α) : OnlySends s p (Pure.pure a : Service α) := of_eq fun _ _ => rfl

theorem throw (e : Error) : OnlySends s p (MonadExcept.throw e : Service α) :=
  of_eq fun _ _ => rfl

theorem lift (e : Except Error α) : OnlySends s p (liftM e : Service α) := of_eq fun _ _ => rfl

/-- What comes second may rely on what the first step has answered. -/
theorem bind {x : Service α} {f : α → Service β} (hx : OnlySends s p x)
    (hf : ∀ a, (∃ d : Desk, d.store = s ∧ (runOn x d).1 = .ok a) → OnlySends s p (f a)) :
    OnlySends s p (x >>= f) := by
  intro d hd
  obtain ⟨sent, hsent, hp⟩ := hx d hd
  rw [runOn_bind]
  cases h : runOn x d with
  | mk r t =>
    rw [h] at hsent
    obtain rfl : t = _ := hsent
    cases r with
    | error e => exact ⟨sent, rfl, hp⟩
    | ok a =>
      obtain ⟨sent', ht, hp'⟩ := hf a ⟨d, hd, by rw [h]⟩ { d with sent := d.sent ++ sent } hd
      refine ⟨sent ++ sent', ?_, fun q hq => ?_⟩
      · rw [← List.append_assoc]
        exact ht
      · exact (List.mem_append.1 hq).elim (hp q) (hp' q)

theorem ask (q : Store → α) : OnlySends s p (Service.ask q) := by
  refine of_eq fun d _ => ?_
  unfold Service.ask connect
  rw [runOn_bind, runOn_bind_ok (runOn_get d)]
  cases d.online <;> rfl

/-- A question is answered by the store. -/
theorem of_runOn_ask {q : Store → α} {a : α}
    (h : ∃ d : Desk, d.store = s ∧ (runOn (Service.ask q) d).1 = .ok a) : a = q s := by
  obtain ⟨d, rfl, h⟩ := h
  unfold Service.ask connect at h
  rw [runOn_bind, runOn_bind_ok (runOn_get d)] at h
  cases honline : d.online with
  | false =>
    rw [honline] at h
    exact nomatch h
  | true =>
    rw [honline] at h
    exact (Except.ok.inj h).symm

theorem send (office : Office) {r : Request} (hr : p r) :
    OnlySends s p (Service.send office r) := by
  intro d _
  refine ⟨[r], ?_, fun q hq => ?_⟩
  · unfold Service.send
    rw [runOn_bind_ok (runOn_get d), runOn_bind_ok (runOn_modify _ d)]
    split <;> rfl
  · rw [List.mem_singleton.1 hq]
    exact hr

/-- **A listener at most notifies the family** of the registration that it hears of. -/
theorem hear (office : Office) (calls : Nat) (r : Registration) (l : Listener) :
    OnlySends s (Request.Notifies s r) (Service.hear office calls r l) := by
  cases l with
  | family zone qrBase =>
    refine .bind (.ask _) fun whom hwhom => ?_
    cases whom with
    | none => exact .pure _
    | some whom =>
      have hfound : s.recipient? r.id = some whom := (of_runOn_ask hwhom).symm
      refine .bind (.send office ⟨whom, hfound, rfl⟩) fun _ _ => .bind (.lift _) fun url _ => ?_
      cases url with
      | none => exact .pure _
      | some url => exact .send office ⟨whom, hfound, rfl⟩
  | watcher answer =>
    unfold Service.hear
    dsimp only
    cases answer calls r with
    | none => exact .pure _
    | some e => exact .throw e

end OnlySends

/-- A listener is called once, and what it answers decides nothing. -/
theorem runOn_call (office : Office) (r : Registration) (position : Nat) (l : Listener) (d : Desk) :
    ∃ delivered sent, runOn (call office r position l) d =
        (.ok delivered, { d with sent := d.sent ++ sent, calls := d.calls ++ [⟨position, r⟩] }) ∧
      ∀ q ∈ sent, q.Notifies d.store r := by
  unfold call
  rw [runOn_bind_ok (runOn_get d), runOn_bind_ok (runOn_modify _ d), runOn_bind, runOn_tryCatch,
    runOn_bind]
  obtain ⟨sent, hsent, hnotifies⟩ := OnlySends.hear office d.calls.length r l
    { d with calls := d.calls ++ [⟨position, r⟩] } rfl
  -- what the listener answers is caught, whatever it is
  cases hx : runOn (hear office d.calls.length r l)
      { d with calls := d.calls ++ [⟨position, r⟩] } with
  | mk x t =>
    rw [hx] at hsent
    obtain rfl : t = _ := hsent
    cases x with
    | error e => exact ⟨false, sent, rfl, hnotifies⟩
    | ok u => exact ⟨true, sent, rfl, hnotifies⟩

/-- The calls about a registration to so many listeners, the first of them at `position`. -/
def callsFrom (r : Registration) (position : Nat) : Nat → List Call
  | 0 => []
  | n + 1 => ⟨position, r⟩ :: callsFrom r (position + 1) n

theorem runOn_callAll (office : Office) (r : Registration) (position : Nat) (ls : List Listener)
    (report : Report) (d : Desk) :
    ∃ report' sent, runOn (callAll office r position ls report) d =
        (.ok report', { d with
          sent := d.sent ++ sent
          calls := d.calls ++ callsFrom r position ls.length }) ∧
      ∀ q ∈ sent, q.Notifies d.store r := by
  induction ls generalizing position report d with
  | nil =>
    refine ⟨report, [], ?_, fun _ hq => absurd hq List.not_mem_nil⟩
    rw [callAll, List.length_nil, callsFrom, List.append_nil, List.append_nil]
    rfl
  | cons l ls ih =>
    -- one call, and then those to the other listeners
    obtain ⟨delivered, sent, hcall, hsent⟩ := runOn_call office r position l d
    obtain ⟨report', sent', hrest, hsent'⟩ := ih (position + 1) (report.add delivered)
      { d with sent := d.sent ++ sent, calls := d.calls ++ [⟨position, r⟩] }
    refine ⟨report', sent ++ sent', ?_, fun q hq => ?_⟩
    · rw [callAll, runOn_bind_ok hcall, hrest, List.length_cons, callsFrom]
      simp only [List.append_assoc, List.singleton_append]
    · exact (List.mem_append.1 hq).elim (hsent q) (hsent' q)

/-- The calls that announce promoted registrations: one to each listener about each of them. -/
def callsAbout (office : Office) (promoted : List Registration) : List Call :=
  promoted.flatMap fun r => callsFrom r 0 office.listeners.length

/-- **Announcing** makes the calls and at most notifies the families; it never fails. -/
theorem runOn_announce_notifies (office : Office) (promoted : List Registration) (d : Desk) :
    ∃ report sent, runOn (announce office promoted) d =
        (.ok report, { d with
          sent := d.sent ++ sent
          calls := d.calls ++ callsAbout office promoted }) ∧
      ∀ q ∈ sent, ∃ r ∈ promoted, q.Notifies d.store r := by
  unfold announce
  generalize ({} : Report) = report
  induction promoted generalizing report d with
  | nil =>
    refine ⟨report, [], ?_, fun _ hq => absurd hq List.not_mem_nil⟩
    rw [announceFrom, callsAbout, List.flatMap_nil, List.append_nil, List.append_nil]
    rfl
  | cons r rs ih =>
    obtain ⟨report₁, sent₁, hr, hsent₁⟩ := runOn_callAll office r 0 office.listeners report d
    obtain ⟨report₂, sent₂, hrs, hsent₂⟩ := ih { d with
      sent := d.sent ++ sent₁
      calls := d.calls ++ callsFrom r 0 office.listeners.length } report₁
    refine ⟨report₂, sent₁ ++ sent₂, ?_, fun q hq => ?_⟩
    · rw [announceFrom, runOn_bind_ok hr, hrs]
      unfold callsAbout
      rw [List.flatMap_cons, ← List.append_assoc, ← List.append_assoc]
    · rcases List.mem_append.1 hq with hq | hq
      · exact ⟨r, List.mem_cons_self, hsent₁ q hq⟩
      · obtain ⟨r', hr', hnotifies⟩ := hsent₂ q hq
        exact ⟨r', List.mem_cons_of_mem r hr', hnotifies⟩

theorem runOn_announce (office : Office) (promoted : List Registration) (d : Desk) :
    ∃ report sent, runOn (announce office promoted) d =
      (.ok report, { d with sent := sent, calls := d.calls ++ callsAbout office promoted }) := by
  obtain ⟨report, sent, hann, -⟩ := runOn_announce_notifies office promoted d
  exact ⟨report, _, hann⟩

/-! ### Settling -/

/-- Runs a session and keeps what it wrote or drops it. Nobody is told of promotions. -/
def settle (work : Tx (Verdict α)) : Service (α × List Registration) := do
  connect
  let d ← get
  let (result, s) := runOn work d.session
  set (d.afterSession s)
  match result with
  | .error e => throw e
  | .ok (.drop answer) => return (answer, [])
  | .ok (.keep answer promoted) =>
    if d.commitFails then throw (.storage .commitFailed)
    modify fun d => d.keep s
    return (answer, promoted)

theorem runOn_connect {d : Desk} (online : d.online = true) : runOn connect d = (.ok ⟨⟩, d) := by
  unfold connect
  rw [runOn_bind_ok (runOn_get d), online]
  rfl

theorem runOn_connect_of_offline {d : Desk} (offline : d.online = false) :
    runOn connect d = (.error (.database (.socket .missing)), d) := by
  unfold connect
  rw [runOn_bind_ok (runOn_get d), offline]
  rfl

theorem runOn_ask {d : Desk} (online : d.online = true) (q : Store → α) :
    runOn (ask q) d = (.ok (q d.store), d) := by
  unfold ask
  rw [runOn_bind_ok (runOn_connect online), runOn_bind_ok (runOn_get d)]
  rfl

theorem runOn_settle (work : Tx (Verdict α)) {d : Desk} (online : d.online = true) :
    runOn (settle work) d =
      match runOn work d.session with
      | (.error e, s) => (.error e, d.afterSession s)
      | (.ok (.drop a), s) => (.ok (a, []), d.afterSession s)
      | (.ok (.keep a promoted), s) =>
        if d.commitFails then (.error (.storage .commitFailed), d.afterSession s)
        else (.ok (a, promoted), (d.afterSession s).keep s) := by
  unfold settle
  rw [runOn_bind_ok (runOn_connect online), runOn_bind_ok (runOn_get d)]
  rcases runOn work d.session with ⟨_ | ⟨_ | _⟩, _⟩
  · rfl
  · cases d.commitFails <;> rfl
  · rfl

/-- What comes after settling: those promoted are announced, if there is an answer. -/
def told (office : Office) : Except Error (α × List Registration) × Desk → Except Error α × Desk
  | (.error e, t) => (.error e, t)
  | (.ok (a, promoted), t) => (.ok a, (runOn (announce office promoted) t).2)

/-- A session is settled first, and then those promoted are announced. -/
theorem runOn_perform (office : Office) (work : Tx (Verdict α)) (d : Desk) :
    runOn (perform office work) d = told office (runOn (settle work) d) := by
  cases online : d.online with
  | false =>
    -- neither gets as far as to open a session
    unfold perform settle
    rw [runOn_bind_error (runOn_connect_of_offline online),
      runOn_bind_error (runOn_connect_of_offline online), told]
  | true =>
    -- both run the same session, and differ only in what follows a commit
    have hwork : (ExceptT.run work).run d.session = runOn work d.session := rfl
    rw [runOn_settle work online]
    unfold perform
    rw [runOn_bind_ok (runOn_connect online), runOn_bind_ok (runOn_get d), hwork]
    rcases runOn work d.session with ⟨_ | ⟨a, promoted⟩ | a, s⟩
    · rfl
    · cases hfails : d.commitFails with
      | true => rfl
      | false =>
        obtain ⟨report, sent, hann⟩ := runOn_announce office promoted ((d.afterSession s).keep s)
        have htold : runOn (discard (announce office promoted)) ((d.afterSession s).keep s) =
            (.ok ⟨⟩, (runOn (announce office promoted) ((d.afterSession s).keep s)).2) := by
          rw [runOn_discard, hann]
          rfl
        change runOn (discard (announce office promoted) >>= fun _ => pure a)
          ((d.afterSession s).keep s) = _
        exact runOn_bind_ok htold
    · rfl

section Perform

variable (office : Office) {work : Tx (Verdict α)} {d : Desk}

theorem runOn_perform_of_offline (work : Tx (Verdict α)) (offline : d.online = false) :
    runOn (perform office work) d = (.error (.database (.socket .missing)), d) :=
  runOn_bind_error (runOn_connect_of_offline offline)

/-- Only a desk that is online answers. -/
theorem online_of_perform {office : Office} {a : α}
    (answer : (runOn (perform office work) d).1 = .ok a) : d.online = true := by
  by_contra offline
  rw [runOn_perform_of_offline office work (by simpa using offline)] at answer
  exact nomatch answer

/-- Of a session, only what it comes to on a copy of the store matters. -/
theorem runOn_perform_congr {work' : Tx (Verdict α)}
    (h : runOn work d.session = runOn work' d.session) :
    runOn (perform office work) d = runOn (perform office work') d := by
  cases online : d.online with
  | false => rw [runOn_perform_of_offline office _ online, runOn_perform_of_offline office _ online]
  | true =>
    rw [runOn_perform, runOn_perform, runOn_settle _ online, runOn_settle _ online, h]

variable (online : d.online = true)

include online

theorem runOn_perform_of_error {e : Error} {s : Session}
    (h : runOn work d.session = (.error e, s)) :
    runOn (perform office work) d = (.error e, d.afterSession s) := by
  rw [runOn_perform, runOn_settle _ online, h]
  rfl

/-- What only looks at the store leaves it as it is. -/
theorem runOn_perform_of_drop {a : α} {s : Session}
    (h : runOn work d.session = (.ok (.drop a), s)) :
    runOn (perform office work) d = (.ok a, d.afterSession s) := by
  rw [runOn_perform, runOn_settle _ online, h]
  rfl

theorem runOn_perform_of_keep {a : α} {promoted : List Registration} {s : Session}
    (h : runOn work d.session = (.ok (.keep a promoted), s)) :
    runOn (perform office work) d =
      if d.commitFails then (.error (.storage .commitFailed), d.afterSession s)
      else (.ok a, (runOn (announce office promoted) ((d.afterSession s).keep s)).2) := by
  rw [runOn_perform, runOn_settle _ online, h]
  dsimp only
  cases d.commitFails <;> rfl

/-- What is kept replaces the store, and then those promoted have been announced. -/
theorem runOn_perform_of_commits {a : α} {promoted : List Registration} {s : Session}
    (commits : d.commitFails = false) (h : runOn work d.session = (.ok (.keep a promoted), s)) :
    ∃ sent, runOn (perform office work) d = (.ok a, { (d.afterSession s).keep s with
      sent := sent
      calls := d.calls ++ callsAbout office promoted }) := by
  obtain ⟨report, sent, hann⟩ := runOn_announce office promoted ((d.afterSession s).keep s)
  rw [runOn_perform_of_keep office online h, commits, if_neg Bool.false_ne_true, hann]
  exact ⟨sent, rfl⟩

end Perform

end Service

/-- The store with so many registration writes paid for, once it is committed. -/
def Store.committed (s : Store) (writes : Nat) : Store :=
  { s.spend writes with commits := s.commits + 1 }

/-- The desk with another budget. -/
def Desk.limited (d : Desk) (budget : Option Nat) : Desk :=
  { d with store := d.store.limited budget }

/-- The desk after numbers have been drawn and questions for a code have been answered. -/
def Desk.drawn (d : Desk) (draws : Draws) (clashes : Nat) : Desk :=
  { d with draws, clashes }

namespace Operation

/-- The desk is asked for an operation. -/
def perform (office : Office) : (op : Operation) → Service op.Answer
  | create childId classId => Service.create office childId classId
  | cancelByCode code => Service.cancelByCode office code
  | cancelById id => Service.cancelById office id
  | setCapacity classId capacity => Service.setCapacity office classId capacity
  | checkIn code => Service.checkIn office code
  | delete id => Service.delete office id
  | rebalance classId => Service.rebalance office classId

/-- What is refused before a session is opened. -/
def precheck : Operation → Except Error Unit
  | setCapacity _ capacity => Enrollment.checkCapacity capacity
  | create .. | cancelByCode _ | cancelById _ | checkIn _ | delete _ | rebalance _ => .ok ()

/-- An operation up to its commit. The answer comes with those who got a seat. -/
def settle (st : EnrollmentSettings) (op : Operation) :
    Service (op.Answer × List Registration) := do
  op.precheck
  Service.settle (op.session st)

/-- What settling an operation comes to. -/
inductive Effect (st : EnrollmentSettings) (op : Operation) (d : Desk) :
    Except Error (op.Answer × List Registration) → Desk → Prop
  | fails (e : Error) (draws : Draws) (clashes : Nat) :
      Effect st op d (.error e) (d.drawn draws clashes)
  | leaves (a : op.Answer) (draws : Draws) (clashes : Nat) (found : op.foundCanceled a = true) :
      Effect st op d (.ok (a, [])) (d.drawn draws clashes)
  | writes (c : Class) (e : Edit) (a : op.Answer) (draws : Draws) (clashes : Nat)
      (sound : op.precheck = .ok ()) (asked : Asks st d.now d.store op c e)
      (reported : op.Reports (e.result c d.now d.store) (e.promoted c d.now d.store) a)
      (affords : d.store.Affords (e.writes c d.now d.store)) :
      Effect st op d (.ok (a, e.promoted c d.now d.store)) { d.drawn draws clashes with
        store := (e.result c d.now d.store).committed (e.writes c d.now d.store) }

section

variable (st : EnrollmentSettings) (office : Office) (op : Operation) {d : Desk}

theorem runOn_settle_of_precheck (sound : op.precheck = .ok ()) (d : Desk) :
    runOn (op.settle st) d = runOn (Service.settle (op.session st)) d := by
  unfold settle
  rw [sound]
  rfl

theorem runOn_settle_of_precheck_error {e : Error} (h : op.precheck = .error e) (d : Desk) :
    runOn (op.settle st) d = (.error e, d) := by
  unfold settle
  rw [h]
  rfl

/-- How settling an operation goes, whatever the budget. -/
inductive Settles (st : EnrollmentSettings) (op : Operation) (d : Desk) : Prop
  /-- No budget helps: it fails, or finds that the registration was canceled before. -/
  | never (runs : ∀ budget, ∃ x draws clashes, runOn (op.settle st) (d.limited budget) =
      (x, (d.limited budget).drawn draws clashes) ∧
        ∀ a promoted, x = .ok (a, promoted) → op.foundCanceled a = true ∧ promoted = [])
  /-- The budget decides. -/
  | paid (c : Class) (e : Edit) (a : op.Answer) (draws : Draws) (clashes : Nat)
      (sound : op.precheck = .ok ()) (asked : Asks st d.now d.store op c e)
      (reported : op.Reports (e.result c d.now d.store) (e.promoted c d.now d.store) a)
      (kept : ∀ budget, (d.store.limited budget).Affords (e.writes c d.now d.store) →
        runOn (op.settle st) (d.limited budget) = (.ok (a, e.promoted c d.now d.store),
          { (d.limited budget).drawn draws clashes with
            store := ((e.result c d.now d.store).limited budget).committed
              (e.writes c d.now d.store) }))
      (short : ∀ budget, ¬ (d.store.limited budget).Affords (e.writes c d.now d.store) →
        runOn (op.settle st) (d.limited budget) =
          (.error (.storage .budgetExhausted), (d.limited budget).drawn draws clashes))

theorem settles_of_error {e : Error} (h : ∀ budget, runOn (op.settle st) (d.limited budget) =
    (.error e, d.limited budget)) : Settles st op d :=
  .never fun budget => ⟨.error e, d.draws, d.clashes, h budget, fun _ _ h => nomatch h⟩

theorem settles_of_course (sound : op.precheck = .ok ()) (online : d.online = true)
    (h : Tx.Course op.foundCanceled op.Reports (Asks st d.now d.store op) d.session
      (op.session st)) : Settles st op d := by
  have hrun := fun budget => (runOn_settle_of_precheck st op sound (d.limited budget)).trans
    (Service.runOn_settle (op.session st) (d := d.limited budget) online)
  cases h with
  | fails e draws clashes runs =>
    refine .never fun budget => ⟨.error e, draws, clashes, ?_, fun _ _ h => nomatch h⟩
    have hsession : runOn (op.session st) (d.limited budget).session = _ := runs budget
    rw [hrun, hsession]
    rfl
  | leaves a draws clashes found runs =>
    refine .never fun budget => ⟨.ok (a, []), draws, clashes, ?_, ?_⟩
    · have hsession : runOn (op.session st) (d.limited budget).session = _ := runs budget
      rw [hrun, hsession]
      rfl
    · rintro _ _ ⟨⟩
      exact ⟨found, rfl⟩
  | writes c e a draws clashes asked reported kept short =>
    have hkept : ∀ budget, (d.store.limited budget).Affords (e.writes c d.now d.store) →
        runOn (op.session st) (d.limited budget).session = _ := kept
    have hshort : ∀ budget, ¬ (d.store.limited budget).Affords (e.writes c d.now d.store) →
        runOn (op.settle st) (d.limited budget) =
          (.error (.storage .budgetExhausted), (d.limited budget).drawn draws clashes) := by
      intro budget h
      obtain ⟨store, hstore⟩ := short budget h
      have hsession : runOn (op.session st) (d.limited budget).session = _ := hstore
      rw [hrun, hsession]
      rfl
    cases fails : d.commitFails with
    | true =>
      -- a store that refuses the commit refuses it whatever was paid
      refine .never fun budget => ?_
      by_cases affords : (d.store.limited budget).Affords (e.writes c d.now d.store)
      · refine ⟨.error (.storage .commitFailed), draws, clashes, ?_, fun _ _ h => nomatch h⟩
        rw [hrun, hkept budget affords]
        exact if_pos fails
      · exact ⟨_, draws, clashes, hshort budget affords, fun _ _ h => nomatch h⟩
    | false =>
      refine .paid c e a draws clashes sound asked reported (fun budget affords => ?_) hshort
      rw [hrun, hkept budget affords]
      exact if_neg (ne_of_eq_of_ne fails Bool.false_ne_true)

/-- **Every operation is settled so.** -/
theorem settles (alone : d.rival = none) : Settles st op d := by
  cases hpre : op.precheck with
  | error e => exact settles_of_error st op fun _ => runOn_settle_of_precheck_error st op hpre _
  | ok u =>
    cases online : d.online with
    | false =>
      refine settles_of_error st op (e := .database (.socket .missing)) fun budget => ?_
      rw [runOn_settle_of_precheck st op hpre]
      exact runOn_bind_error (Service.runOn_connect_of_offline (d := d.limited budget) online)
    | true => exact settles_of_course st op hpre online (op.course st (s := d.session) alone)

/-- **The effect of an operation.** -/
theorem effect_settle (alone : d.rival = none) :
    Effect st op d (runOn (op.settle st) d).1 (runOn (op.settle st) d).2 := by
  -- of all budgets, the one that the store has
  have hbudget : d.limited d.store.writeBudget = d := rfl
  cases op.settles st alone with
  | never runs =>
    obtain ⟨x, draws, clashes, hrun, hx⟩ := runs d.store.writeBudget
    rw [hbudget] at hrun
    rw [hrun]
    cases x with
    | error e => exact .fails e draws clashes
    | ok y =>
      -- an answer without a commit says that there was nothing to cancel
      obtain ⟨found, hnone⟩ := hx y.1 y.2 rfl
      have heffect : Effect st op d (.ok (y.1, [])) _ := .leaves y.1 draws clashes found
      rw [← hnone] at heffect
      exact heffect
  | paid c e a draws clashes sound asked reported kept short =>
    by_cases affords : d.store.Affords (e.writes c d.now d.store)
    · have hrun := kept d.store.writeBudget affords
      rw [hbudget, ← e.result_limited] at hrun
      rw [hrun]
      exact .writes c e a draws clashes sound asked reported affords
    · have hrun := short d.store.writeBudget affords
      rw [hbudget] at hrun
      rw [hrun]
      exact .fails _ draws clashes

/-- An operation is settled first, and then those promoted are announced. -/
theorem runOn_perform (d : Desk) :
    runOn (op.perform office) d =
      Service.told office (runOn (op.settle office.settings.enrollment) d) := by
  cases hpre : op.precheck with
  | error e =>
    rw [runOn_settle_of_precheck_error _ op hpre]
    cases op with
    | setCapacity classId capacity =>
      change runOn (Service.setCapacity office classId capacity) d = _
      unfold Service.setCapacity
      exact runOn_bind_error (by rw [runOn_lift]; exact congrArg (·, d) hpre)
    | create | cancelByCode | cancelById | checkIn | delete | rebalance => exact nomatch hpre
  | ok u =>
    rw [runOn_settle_of_precheck _ op hpre]
    refine Eq.trans ?_ (Service.runOn_perform office (op.session office.settings.enrollment) d)
    cases op with
    | setCapacity classId capacity =>
      change runOn (Service.setCapacity office classId capacity) d = _
      unfold Service.setCapacity
      exact runOn_bind_ok (by rw [runOn_lift]; exact congrArg (·, d) hpre)
    | create | cancelByCode | cancelById | checkIn | delete | rebalance => rfl

/-- Who got a seat, given what settling an operation came to. -/
def promotedOf : Except Error (op.Answer × List Registration) → List Registration
  | .error _ => []
  | .ok (_, promoted) => promoted

/-- **What an operation does to the desk**: its effect, and then the calls about those promoted. -/
theorem perform_effect (alone : d.rival = none) :
    ∃ x mid sent, Effect office.settings.enrollment op d x mid ∧
      runOn (op.settle office.settings.enrollment) d = (x, mid) ∧
      runOn (op.perform office) d = (x.map Prod.fst, { mid with
        sent := sent
        calls := mid.calls ++ Service.callsAbout office (op.promotedOf x) }) := by
  have heffect := op.effect_settle office.settings.enrollment alone
  rw [op.runOn_perform office]
  -- the announcement depends on the outcome alone
  generalize runOn (op.settle office.settings.enrollment) d = y at heffect ⊢
  obtain ⟨x, mid⟩ := y
  cases x with
  | error e =>
    refine ⟨.error e, mid, mid.sent, heffect, rfl, ?_⟩
    rw [Service.told, promotedOf, Service.callsAbout, List.flatMap_nil, List.append_nil]
    rfl
  | ok y =>
    obtain ⟨report, sent, hann⟩ := Service.runOn_announce office y.2 mid
    refine ⟨.ok y, mid, sent, heffect, rfl, ?_⟩
    rw [Service.told, hann]
    rfl

end

section

variable {office : Office} {op : Operation} {d : Desk}

/-- An operation that is not carried out leaves the store as it was. -/
theorem store_of_not_carriedOut (alone : d.rival = none)
    (h : op.carriedOut (runOn (op.perform office) d).1 = false) :
    (runOn (op.perform office) d).2.store = d.store := by
  obtain ⟨x, mid, sent, heffect, -, hrun⟩ := op.perform_effect office alone
  rw [hrun] at h ⊢
  cases heffect with
  | fails e draws clashes => rfl
  | leaves a draws clashes found => rfl
  | writes c e a draws clashes sound asked reported affords =>
    have hno : op.carriedOut (.ok a) = false := h
    rw [reported.carriedOut] at hno
    exact nomatch hno

/-- An answer, unless it says that the registration was canceled before, reports of the edit that
was written, and then those promoted by it have been announced. -/
theorem of_answer (alone : d.rival = none) {a : op.Answer}
    (answer : (runOn (op.perform office) d).1 = .ok a) (fresh : op.foundCanceled a = false) :
    ∃ c e, op.Asks office.settings.enrollment d.now d.store c e ∧
      op.Reports (e.result c d.now d.store) (e.promoted c d.now d.store) a ∧
      (runOn (op.perform office) d).2.store =
        (e.result c d.now d.store).committed (e.writes c d.now d.store) ∧
      (runOn (op.perform office) d).2.calls =
        d.calls ++ Service.callsAbout office (e.promoted c d.now d.store) ∧
      (runOn (op.settle office.settings.enrollment) d).1 =
        .ok (a, e.promoted c d.now d.store) := by
  obtain ⟨x, mid, sent, heffect, hsettle, hrun⟩ := op.perform_effect office alone
  rw [hrun] at answer ⊢
  rw [hsettle]
  cases heffect with
  | fails e draws clashes => exact nomatch answer
  | leaves b draws clashes found =>
    obtain rfl := Except.ok.inj answer
    exact nomatch fresh.symm.trans found
  | writes c e b draws clashes sound asked reported affords =>
    obtain rfl := Except.ok.inj answer
    exact ⟨c, e, asked, reported, rfl, rfl, rfl⟩

/-- An operation that is carried out has written the edit it asked for, and rebalanced. -/
theorem store_of_carriedOut (alone : d.rival = none)
    (h : op.carriedOut (runOn (op.perform office) d).1 = true) :
    ∃ c e, op.Asks office.settings.enrollment d.now d.store c e ∧
      (runOn (op.perform office) d).2.store =
        (e.result c d.now d.store).committed (e.writes c d.now d.store) := by
  cases answer : (runOn (op.perform office) d).1 with
  | error e =>
    rw [answer] at h
    exact nomatch h
  | ok a =>
    rw [answer] at h
    have fresh : op.foundCanceled a = false := Bool.not_eq_true' _ ▸ h
    obtain ⟨c, e, asked, -, hstore, -⟩ := of_answer alone answer fresh
    exact ⟨c, e, asked, hstore⟩

end

end Operation

/-! ### Runs -/

/-- What may happen at the desk. -/
inductive Event where
  | operation (op : Operation)
  | clock (now : Instant)
  | draws (draws : Draws)
  | budget (budget : Option Nat)

namespace Desk

/-- The desk after an event. -/
def next (office : Office) (d : Desk) : Event → Desk
  | .operation op => (runOn (op.perform office) d).2
  | .clock now => { d with now }
  | .draws draws => { d with draws }
  | .budget budget => { d with store := d.store.limited budget }

/-- The desk after events. -/
def run (office : Office) (d : Desk) (events : List Event) : Desk :=
  events.foldl (next office) d

variable {office : Office} {d : Desk}

/-- What an event does to the store. -/
theorem next_store (alone : d.rival = none) (event : Event) :
    (∃ budget, (next office d event).store = d.store.limited budget) ∨
      ∃ op c e, event = .operation op ∧ op.precheck = .ok () ∧
        op.Asks office.settings.enrollment d.now d.store c e ∧
        (next office d event).store =
          (e.result c d.now d.store).committed (e.writes c d.now d.store) := by
  cases event with
  | clock now => exact .inl ⟨d.store.writeBudget, rfl⟩
  | draws draws => exact .inl ⟨d.store.writeBudget, rfl⟩
  | budget budget => exact .inl ⟨budget, rfl⟩
  | operation op =>
    obtain ⟨x, mid, sent, heffect, -, hrun⟩ := op.perform_effect office alone
    have hnext : next office d (.operation op) = _ := congrArg Prod.snd hrun
    rw [hnext]
    cases heffect with
    | fails e draws clashes => exact .inl ⟨d.store.writeBudget, rfl⟩
    | leaves a draws clashes found => exact .inl ⟨d.store.writeBudget, rfl⟩
    | writes c e a draws clashes sound asked reported affords =>
      exact .inr ⟨op, c, e, rfl, sound, asked, rfl⟩

theorem next_rival (alone : d.rival = none) (event : Event) :
    (next office d event).rival = none := by
  cases event with
  | clock now => exact alone
  | draws draws => exact alone
  | budget budget => exact alone
  | operation op =>
    obtain ⟨x, mid, sent, heffect, -, hrun⟩ := op.perform_effect office alone
    have hnext : next office d (.operation op) = _ := congrArg Prod.snd hrun
    rw [hnext]
    cases heffect <;> exact alone

/-- What holds at first and is preserved by every event holds after every run. -/
theorem run_induction {P : Store → Prop} (alone : d.rival = none) (start : P d.store)
    (limited : ∀ s budget, P s → P (s.limited budget))
    (step : ∀ (op : Operation) (now : Instant) (s : Store) (c : Class) (e : Edit),
      op.Asks office.settings.enrollment now s c e → P s →
      P ((e.result c now s).committed (e.writes c now s))) (events : List Event) :
    P (run office d events).store := by
  induction events generalizing d with
  | nil => exact start
  | cons event events ih =>
    refine ih (next_rival alone event) ?_
    rcases next_store alone event with ⟨budget, h⟩ | ⟨op, c, e, -, -, asked, h⟩
    · rw [h]
      exact limited _ _ start
    · rw [h]
      exact step op _ _ c e asked start

theorem run_rival (office : Office) (alone : d.rival = none) (events : List Event) :
    (run office d events).rival = none := by
  induction events generalizing d with
  | nil => exact alone
  | cons event events ih => exact ih (next_rival alone event)

end Desk

/-! ### A small desk -/

namespace Sample

/-- A class with one seat. -/
def yoga : Class where
  id := 1
  name := "Yoga"
  date := ⟨1000⟩
  capacity := 1
  signupOpensAt := none
  createdAt := ⟨0⟩
  updatedAt := ⟨0⟩

/-- A child who came in time for the seat. -/
def early : Registration where
  id := 1
  parentId := 1
  childId := 1
  classId := 1
  status := .confirmed
  code := "REG-000001"
  checkInAt := none
  createdAt := ⟨1⟩
  updatedAt := ⟨1⟩

/-- A child who came too late for it. -/
def late : Registration where
  id := 2
  parentId := 2
  childId := 2
  classId := 1
  status := .waitlisted
  code := "REG-000002"
  checkInAt := none
  createdAt := ⟨2⟩
  updatedAt := ⟨2⟩

/-- The store with the class and both of them. -/
def store : Store :=
  ((({} : Store).addClass yoga).addRegistration early).addRegistration late

/-- An office with two listeners, of whom the first always fails. -/
def office : Office where
  settings := {}
  listeners := [.watcher fun _ _ => some .linkCodeInvalid, .watcher fun _ _ => none]
  refusal := fun _ _ => none

def desk : Desk where
  store := store
  now := ⟨10⟩
  draws := ⟨fun _ => 0, 0⟩

/-- A child who came after the one who was late. -/
def last : Registration where
  id := 3
  parentId := 3
  childId := 3
  classId := 1
  status := .waitlisted
  code := "REG-000003"
  checkInAt := none
  createdAt := ⟨3⟩
  updatedAt := ⟨3⟩

/-- The desk with all three of them. -/
def queueDesk : Desk :=
  { desk with store := store.addRegistration last }

/-- The desk at which a third child is known. -/
def thirdDesk : Desk :=
  { desk with store := store.addChild ⟨3, 1, "Ben", ⟨0⟩⟩ }

/-- What is stored when the child is registered for the class: it waits. -/
def ben : Registration where
  id := 3
  parentId := 1
  childId := 3
  classId := 1
  status := .waitlisted
  code := "REG-000000"
  checkInAt := none
  createdAt := ⟨10⟩
  updatedAt := ⟨10⟩

end Sample

end EnrollmentDesk
