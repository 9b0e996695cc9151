import EnrollmentDesk.Chat.Handler
import EnrollmentDesk.Proofs.Account

/-!
# Errands

Whatever is asked of the desk is one of a few errands: an operation on the registrations, a question
about them, or something about an account. A command is one errand with the wording of its answer.
`CommandLine.understand` finds both from the settings, the sender and what was typed, without a look
at the desk; so whoever may not give the command, or has typed it wrong, is refused before anything
is done.

What holds of all commands is shown for the errands, and a command is taken apart here and nowhere
else. An errand comes in two parts, as an operation does: it is settled, and then those promoted are
announced. All that is settled is *quiet* (`Service.IsQuiet`): it neither adds to the record of what
was sent and who was called, nor looks at it. Quiet steps are closed under sequencing, so that a
step is seen to be one from its text.

## Main statements

* `Service.runOn_reply` — a command does what its errand does;
* `Errand.runOn_perform` and `Errand.isQuiet_settle` — an errand is settled first, and quietly;
* `Service.runOn_handle_of_ok` and `Service.runOn_handle_of_error` — how a command is answered.
-/

namespace EnrollmentDesk

/-- What the desk can be asked for. -/
inductive Errand where
  | nothing
  | operation (op : Operation)
  | status (code : String)
  | occupancy (classId : Int)
  | conflicts (childId classId : Int)
  | issue (parentId : Int)
  | link (typed : String) (chatId : Int)
  | list (chatId : Int)

namespace Errand

/-- What is answered. -/
def Answer : Errand → Type
  | nothing | conflicts .. => Unit
  | operation op => op.Answer
  | status _ => Placement
  | occupancy _ => Occupancy
  | issue _ => LinkCode
  | link .. => Parent
  | list _ => List ListedRegistration

/-- The desk is asked. -/
def perform (office : Office) : (errand : Errand) → Service errand.Answer
  | nothing => pure ()
  | operation op => op.perform office
  | status code => Service.status office code
  | occupancy classId => Service.occupancy office classId
  | conflicts childId classId => Service.conflicts office childId classId
  | issue parentId => Service.issueLinkCode office parentId
  | link typed chatId => Service.linkChat typed chatId
  | list chatId => Service.listOwn chatId

end Errand

/-- A command that was read: what it asks for, and how that is answered. -/
structure Understood where
  errand : Errand
  wording : errand.Answer → Except Error Reply

namespace CommandLine

/-- Reads a command. The error is why it is refused. -/
def understand (s : Settings) (m : Sender) (line : CommandLine) : Except Error Understood := do
  let typed := line.argument
  match line.command with
  | .start => return ⟨.nothing, fun _ => return ⟨Wording.welcome, false⟩⟩
  | .help => return ⟨.nothing, fun _ => return ⟨Wording.help (m.isAdmin s), false⟩⟩
  | .link => return ⟨.link typed m.chatId, fun parent => return ⟨Wording.linked parent, true⟩⟩
  | .my =>
    return ⟨.list m.chatId, fun rs => return ⟨Wording.listing (← s.enrollment.zone) rs, true⟩⟩
  | .status =>
    let code ← Argument.code s .status typed
    return ⟨.status code, fun p => return ⟨Wording.status (← s.enrollment.zone) p, true⟩⟩
  | .cancel =>
    let code ← Argument.code s .cancel typed
    return ⟨.operation (.cancelByCode code), fun c => return ⟨Wording.cancellation c, true⟩⟩
  | .checkin =>
    m.requireAdmin s
    let code ← Argument.code s .checkin typed
    return ⟨.operation (.checkIn code), fun r => return ⟨Wording.checkedIn r, true⟩⟩
  | .capacity =>
    m.requireAdmin s
    let (classId, capacity) ← Argument.classAndCapacity typed
    return ⟨.operation (.setCapacity classId capacity), fun promoted : List Registration =>
      return ⟨Wording.capacitySet classId capacity promoted.length, false⟩⟩
  | .roster =>
    m.requireAdmin s
    let classId ← Argument.classId typed
    return ⟨.occupancy classId, fun o => return ⟨Wording.roster o, true⟩⟩
  | .linkcode =>
    m.requireAdmin s
    let parentId ← Argument.number Wording.linkCodeUsage typed
    return ⟨.issue parentId, fun c => return ⟨Wording.linkCode (← s.enrollment.zone) c, true⟩⟩

end CommandLine

namespace Service

/-- What a command comes to once its errand is done. -/
def worded (u : Understood) : Except Error u.errand.Answer × Desk → Except Error Reply × Desk
  | (x, t) => (x.bind u.wording, t)

/-- Wording an answer leaves the desk alone. -/
theorem runOn_bind_of_words {α : Type} {f : α → Service Reply} {words : α → Except Error Reply}
    (hf : ∀ a t, runOn (f a) t = (words a, t)) (x : Service α) (d : Desk) :
    runOn (x >>= f) d = ((runOn x d).1.bind words, (runOn x d).2) := by
  rw [runOn_bind]
  rcases runOn x d with ⟨e | a, t⟩
  · rfl
  · exact hf a t

theorem runOn_words_in_zone (s : EnrollmentSettings) (r : Offset → Reply) (t : Desk) :
    runOn (do return r (← s.zone) : Service Reply) t = (do return r (← s.zone), t) := by
  cases s.zone <;> rfl

/-- **A command does what its errand does**, and nothing if it is refused. -/
theorem runOn_reply (office : Office) (m : Sender) (line : CommandLine) (d : Desk) :
    runOn (reply office m line) d =
      match line.understand office.settings m with
      | .error e => (.error e, d)
      | .ok u => worded u (runOn (u.errand.perform office) d) := by
  obtain ⟨command, typed⟩ := line
  unfold reply CommandLine.understand
  dsimp only
  cases command with
  | start => rfl
  | help => rfl
  | link => exact runOn_bind_of_words (fun _ _ => rfl) _ d
  | my =>
    exact runOn_bind_of_words (fun rs t =>
      runOn_words_in_zone _ (fun zone => ⟨Wording.listing zone rs, true⟩) t) _ d
  | status =>
    cases Argument.code office.settings .status typed with
    | error e => rfl
    | ok code =>
      exact runOn_bind_of_words (fun p t =>
        runOn_words_in_zone _ (fun zone => ⟨Wording.status zone p, true⟩) t) _ d
  | cancel =>
    cases Argument.code office.settings .cancel typed with
    | error e => rfl
    | ok code => exact runOn_bind_of_words (fun _ _ => rfl) _ d
  -- the other commands are for admins
  | checkin =>
    cases m.requireAdmin office.settings with
    | error e => rfl
    | ok _ =>
      cases Argument.code office.settings .checkin typed with
      | error e => rfl
      | ok code => exact runOn_bind_of_words (fun _ _ => rfl) _ d
  | capacity =>
    cases m.requireAdmin office.settings with
    | error e => rfl
    | ok _ =>
      cases Argument.classAndCapacity typed with
      | error e => rfl
      | ok numbers => exact runOn_bind_of_words (fun _ _ => rfl) _ d
  | roster =>
    cases m.requireAdmin office.settings with
    | error e => rfl
    | ok _ =>
      cases Argument.classId typed with
      | error e => rfl
      | ok classId => exact runOn_bind_of_words (fun _ _ => rfl) _ d
  | linkcode =>
    cases m.requireAdmin office.settings with
    | error e => rfl
    | ok _ =>
      cases Argument.number Wording.linkCodeUsage typed with
      | error e => rfl
      | ok parentId =>
        exact runOn_bind_of_words (fun c t =>
          runOn_words_in_zone _ (fun zone => ⟨Wording.linkCode zone c, true⟩) t) _ d

end Service

/-! ### Telling nobody -/

/-- The desk with another record of what it sent and whom it called. -/
def Desk.recording (d : Desk) (sent : List Request) (calls : List Call) : Desk :=
  { d with sent, calls }

namespace Service

variable {α β : Type}

/-- A step that tells nobody, and does not look at who was told what. -/
def IsQuiet (x : Service α) : Prop :=
  ∀ (d : Desk) (sent : List Request) (calls : List Call),
    runOn x (d.recording sent calls) = ((runOn x d).1, (runOn x d).2.recording sent calls)

namespace IsQuiet

theorem pure (a : α) : IsQuiet (Pure.pure a : Service α) := fun _ _ _ => rfl

theorem throw (e : Error) : IsQuiet (MonadExcept.throw e : Service α) := fun _ _ _ => rfl

theorem lift (e : Except Error α) : IsQuiet (liftM e : Service α) := fun _ _ _ => rfl

theorem bind {x : Service α} {f : α → Service β} (hx : IsQuiet x) (hf : ∀ a, IsQuiet (f a)) :
    IsQuiet (x >>= f) := by
  intro d sent calls
  rw [runOn_bind, runOn_bind, hx d sent calls]
  rcases runOn x d with ⟨e | a, t⟩
  · rfl
  · exact hf a t sent calls

/-- What follows a look at the desk may depend on all but the record. -/
theorem get_bind {f : Desk → Service β} (h : ∀ d sent calls, f (d.recording sent calls) = f d)
    (hf : ∀ d, IsQuiet (f d)) : IsQuiet (get >>= f) := by
  intro d sent calls
  rw [runOn_bind_ok (runOn_get d), runOn_bind_ok (runOn_get _), h]
  exact hf d d sent calls

theorem modify {f : Desk → Desk}
    (h : ∀ d sent calls, f (d.recording sent calls) = (f d).recording sent calls) :
    IsQuiet (modify f : Service PUnit) := by
  intro d sent calls
  rw [runOn_modify, runOn_modify, h]

theorem ite {c : Prop} [Decidable c] {x y : Service α} (hx : IsQuiet x) (hy : IsQuiet y) :
    IsQuiet (if c then x else y) := by
  split
  · exact hx
  · exact hy

/-- The record stays as it is. -/
theorem record_eq {x : Service α} (h : IsQuiet x) (d : Desk) :
    (runOn x d).2.sent = d.sent ∧ (runOn x d).2.calls = d.calls := by
  have hd : runOn x d = ((runOn x d).1, (runOn x d).2.recording d.sent d.calls) :=
    h d d.sent d.calls
  rw [hd]
  exact ⟨rfl, rfl⟩

theorem connect : IsQuiet connect :=
  get_bind (fun _ _ _ => rfl) fun _ => .ite (.throw _) (.pure _)

theorem ask (q : Store → α) : IsQuiet (ask q) :=
  .bind connect fun _ => get_bind (fun _ _ _ => rfl) fun _ => .pure _

theorem now : IsQuiet now :=
  get_bind (fun _ _ _ => rfl) fun _ => .pure _

theorem draw : IsQuiet draw :=
  get_bind (fun _ _ _ => rfl) fun _ => .bind (.modify fun _ _ _ => rfl) fun _ => .pure _

/-- Nobody is told of anything before it is settled. -/
theorem settle (work : Tx (Verdict α)) : IsQuiet (settle work) := by
  intro d sent calls
  cases online : d.online with
  | false =>
    unfold Service.settle
    rw [runOn_bind_error (runOn_connect_of_offline (d := d.recording sent calls) online),
      runOn_bind_error (runOn_connect_of_offline online)]
  | true =>
    -- the record is no part of the session
    have hsession : (d.recording sent calls).session = d.session := rfl
    rw [runOn_settle work online, runOn_settle work (d := d.recording sent calls) online, hsession]
    rcases runOn work d.session with ⟨_ | ⟨_ | _⟩, _⟩
    · rfl
    · obtain ⟨_, _, _, _, _, _, commitFails, _, _⟩ := d
      cases commitFails <;> rfl
    · rfl

theorem redeem (code : String) (chatId : Int) (time : Instant) :
    IsQuiet (redeem code chatId time) :=
  .bind connect fun _ => get_bind (fun _ _ _ => rfl) fun _ =>
    .bind (.modify fun _ _ _ => rfl) fun _ => .pure _

theorem linkChat (typed : String) (chatId : Int) : IsQuiet (linkChat typed chatId) := by
  unfold Service.linkChat
  cases LinkCode.normalize typed with
  | none => exact .throw _
  | some code =>
    refine .bind now fun time => .bind (redeem code chatId time) fun parent => ?_
    cases parent with
    | none => exact .throw _
    | some parent => exact .pure _

theorem createLinkCode (parentId : Int) (code : String) (expiresAt : Instant) :
    IsQuiet (createLinkCode parentId code expiresAt) := by
  refine get_bind (fun _ _ _ => rfl) fun d => ?_
  -- the store is asked only if the desk is not made to say that the code is taken
  cases d.clashes with
  | succ n => exact .bind (.modify fun _ _ _ => rfl) fun _ => .pure _
  | zero =>
    refine .bind connect fun _ => get_bind (fun _ _ _ => rfl) fun t => .bind now fun time => ?_
    rcases t.store.createLinkCode parentId code expiresAt time with fault | ⟨created, store⟩
    · exact .throw _
    · exact .bind (.modify fun _ _ _ => rfl) fun _ => .pure _

theorem issueFree? (parentId : Int) (expiresAt : Instant) (n : Nat) :
    IsQuiet (issueFree? parentId expiresAt n) := by
  induction n with
  | zero => exact .pure _
  | succ n ih =>
    refine .bind draw fun draw => .bind (createLinkCode parentId _ expiresAt) fun created => ?_
    cases created with
    | some created => exact .pure _
    | none => exact ih

theorem issueLinkCode (office : Office) (parentId : Int) :
    IsQuiet (issueLinkCode office parentId) := by
  refine .bind (ask _) fun there => .ite (.throw _) (.bind now fun time => ?_)
  cases time.afterMinutes? office.settings.enrollment.linkCodeMinutes with
  | none => exact .throw _
  | some expiresAt =>
    refine .bind (issueFree? parentId expiresAt _) fun created => ?_
    cases created with
    | some created => exact .pure _
    | none => exact .throw _

theorem listOwn (chatId : Int) : IsQuiet (listOwn chatId) := by
  refine .bind (ask _) fun linked => ?_
  cases linked with
  | none => exact .throw _
  | some parentId => exact .bind now fun _ => ask _

end IsQuiet

/-- Who got a seat, given what settling came to. -/
def promotedOf : Except Error (α × List Registration) → List Registration
  | .error _ => []
  | .ok (_, promoted) => promoted

/-- Telling makes the calls about those promoted, whatever is sent on the way. -/
theorem exists_told (office : Office) (y : Except Error (α × List Registration) × Desk) :
    ∃ sent, told office y = (y.1.map Prod.fst, { y.2 with
      sent := sent
      calls := y.2.calls ++ callsAbout office (promotedOf y.1) }) := by
  obtain ⟨e | ⟨a, promoted⟩, t⟩ := y
  · refine ⟨t.sent, ?_⟩
    rw [promotedOf, callsAbout, List.flatMap_nil, List.append_nil]
    rfl
  · obtain ⟨report, sent, hann⟩ := runOn_announce office promoted t
    refine ⟨sent, ?_⟩
    rw [told, hann]
    rfl

/-- A step that promotes nobody, as one that says so. -/
theorem runOn_with_nobody (x : Service α) (d : Desk) :
    runOn (do return (← x, ([] : List Registration))) d =
      ((runOn x d).1.map fun a => (a, []), (runOn x d).2) := by
  rw [runOn_bind]
  rcases runOn x d with ⟨_ | _, _⟩ <;> rfl

theorem told_of_nobody (office : Office) (x : Service α) (d : Desk) :
    told office (runOn (do return (← x, [])) d) = runOn x d := by
  rw [runOn_with_nobody]
  rcases runOn x d with ⟨_ | _, _⟩ <;> rfl

end Service

namespace Errand

/-- An errand up to the point where someone is told. The answer comes with those who got a seat. -/
def settle (office : Office) : (errand : Errand) → Service (errand.Answer × List Registration)
  | nothing => return ((), [])
  | operation op => op.settle office.settings.enrollment
  | status code => Service.settle (Enrollment.status code)
  | occupancy classId => Service.settle (Enrollment.occupancy classId)
  | conflicts childId classId =>
    Service.settle (Enrollment.conflicts office.settings.enrollment childId classId)
  | issue parentId => do return (← Service.issueLinkCode office parentId, [])
  | link typed chatId => do return (← Service.linkChat typed chatId, [])
  | list chatId => do return (← Service.listOwn chatId, [])

variable (errand : Errand)

/-- **An errand is settled first**, and then those promoted are announced. -/
theorem runOn_perform (office : Office) (d : Desk) :
    runOn (errand.perform office) d = Service.told office (runOn (errand.settle office) d) := by
  cases errand with
  | nothing => rfl
  | operation op => exact op.runOn_perform office d
  | status code => exact Service.runOn_perform office (Enrollment.status code) d
  | occupancy classId => exact Service.runOn_perform office (Enrollment.occupancy classId) d
  | conflicts childId classId =>
    exact Service.runOn_perform office
      (Enrollment.conflicts office.settings.enrollment childId classId) d
  | issue | link | list => exact (Service.told_of_nobody office _ d).symm

/-- **Nobody is told of anything before it is settled.** -/
theorem isQuiet_settle (office : Office) : Service.IsQuiet (errand.settle office) := by
  cases errand with
  | nothing => exact .pure _
  | operation op => exact .bind (.lift _) fun _ => .settle _
  | status code => exact .settle (Enrollment.status code)
  | occupancy classId => exact .settle (Enrollment.occupancy classId)
  | conflicts childId classId =>
    exact .settle (Enrollment.conflicts office.settings.enrollment childId classId)
  | issue parentId => exact .bind (.issueLinkCode office parentId) fun _ => .pure _
  | link typed chatId => exact .bind (.linkChat typed chatId) fun _ => .pure _
  | list chatId => exact .bind (.listOwn chatId) fun _ => .pure _

/-- Of the office, settling an errand depends on the settings alone. -/
theorem settle_congr {office office' : Office} (h : office.settings = office'.settings) :
    errand.settle office = errand.settle office' := by
  cases errand with
  | operation | conflicts =>
    unfold settle
    rw [h]
  | issue parentId =>
    unfold settle Service.issueLinkCode
    rw [h]
  | nothing | status | occupancy | link | list => rfl

end Errand

/-! ### Answers -/

/-- The request to deliver a reply. -/
def Reply.to (r : Reply) (chatId : Int) : Request :=
  .message chatId r.text r.markup

/-- How an error is explained in a chat. -/
def Reply.ofError (e : Error) : Reply :=
  ⟨e.userMessage, false⟩

/-- What whoever runs the bot hears of an error that was explained in the chat. -/
def Error.passedOn (e : Error) : Except Error Unit :=
  match e.severity with
  | .info | .warning => .ok ()
  | .error | .critical => .error e

/-- What the chat service says to a request after so many requests. -/
def Office.delivery (office : Office) (requests : Nat) (r : Request) : Except Error Unit :=
  match office.refusal requests r with
  | none => .ok ()
  | some fault => .error (.chat fault)

namespace Service

variable {office : Office} {m : Sender} {line : CommandLine} {d t : Desk} {e : Error} {r : Reply}

/-- A request is on the record whether it is delivered or not. -/
theorem runOn_send (office : Office) (r : Request) (d : Desk) :
    runOn (send office r) d =
      (office.delivery d.sent.length r, { d with sent := d.sent ++ [r] }) := by
  unfold send Office.delivery
  rw [runOn_bind_ok (runOn_get d), runOn_bind_ok (runOn_modify _ d)]
  cases office.refusal d.sent.length r <;> rfl

/-- An error is explained once, however that goes. -/
theorem runOn_report (h : e ≠ .outOfRange) (office : Office) (chatId : Int) (d : Desk) :
    runOn (report office chatId e) d =
      ((office.delivery d.sent.length ((Reply.ofError e).to chatId)).bind fun _ => e.passedOn,
        { d with sent := d.sent ++ [(Reply.ofError e).to chatId] }) := by
  have hsend := runOn_send office ((Reply.ofError e).to chatId) d
  unfold report Error.passedOn
  rw [if_neg h]
  cases hd : office.delivery d.sent.length ((Reply.ofError e).to chatId) with
  | error fault =>
    rw [hd] at hsend
    exact runOn_bind_error hsend
  | ok _ =>
    rw [hd] at hsend
    refine (runOn_bind_ok hsend).trans ?_
    cases e.severity <;> rfl

/-- Nobody is told of what left the range. -/
theorem runOn_report_outOfRange (office : Office) (chatId : Int) (d : Desk) :
    runOn (report office chatId .outOfRange) d = (.error .outOfRange, d) := rfl

/-- A command that failed is answered with its error. -/
theorem runOn_handle_of_error (h : runOn (reply office m line) d = (.error e, t)) :
    runOn (handle office m line) d = runOn (report office m.chatId e) t := by
  unfold handle
  exact runOn_tryCatch_error (runOn_bind_error h) _

/-- If a reply cannot be delivered, that is the error. -/
theorem runOn_handle_of_ok (h : runOn (reply office m line) d = (.ok r, t)) :
    runOn (handle office m line) d =
      match office.delivery t.sent.length (r.to m.chatId) with
      | .ok _ => (.ok ⟨⟩, { t with sent := t.sent ++ [r.to m.chatId] })
      | .error e =>
        runOn (report office m.chatId e) { t with sent := t.sent ++ [r.to m.chatId] } := by
  have hreply : runOn (do
      let r ← reply office m line
      send office (.message m.chatId r.text r.markup)) d =
        (office.delivery t.sent.length (r.to m.chatId),
          { t with sent := t.sent ++ [r.to m.chatId] }) :=
    (runOn_bind_ok h).trans (runOn_send office (r.to m.chatId) t)
  unfold handle
  cases hd : office.delivery t.sent.length (r.to m.chatId) with
  | error fault =>
    rw [hd] at hreply
    exact runOn_tryCatch_error hreply _
  | ok _ =>
    rw [hd] at hreply
    exact runOn_tryCatch_ok hreply _

end Service

end EnrollmentDesk
