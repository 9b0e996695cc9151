import EnrollmentDesk.Proofs.AcceptedSettings
import EnrollmentDesk.Proofs.Errand

/-!
# In the range of times

An error is explained in the chat, unless a time or a duration left the range that can be stored
(`Error.outOfRange`); then nobody is told. Two things asked in a chat can lead there: a link code
that would be good for too long, and a time zone that cannot be worked with. No session does that a
chat can ask for. These are built of steps that fail in other ways only (`IsInRange`), so that is
seen from their text.

What a chat can ask for is read off the commands once (`CommandLine.isSound_of_understand`).

## Main statements

* `CommandLine.isSound_of_understand` — what a command may ask for, and that it can be worded;
* `Errand.settle_ne_outOfRange` — settling such an errand stays in range.
-/

namespace EnrollmentDesk

/-! ### Steps in range -/

section

variable {α β : Type} {x : Except Error α} {e : Error}

theorem map_ne_error {f : α → β} (hx : x ≠ .error e) : x.map f ≠ .error e := by
  cases x with
  | error e' => exact fun he => hx (congrArg Except.error (Except.error.inj he))
  | ok a => exact fun he => nomatch he

theorem bind_ne_error {f : α → Except Error β} (hx : x ≠ .error e) (hf : ∀ a, f a ≠ .error e) :
    (x >>= f) ≠ .error e := by
  cases x with
  | error e' => exact fun he => hx (congrArg Except.error (Except.error.inj he))
  | ok a => exact hf a

end

section

variable {σ α β : Type}

/-- A step that never fails with a time out of range. -/
def IsInRange (x : ExceptT Error (StateM σ) α) : Prop :=
  ∀ s, (runOn x s).1 ≠ .error .outOfRange

namespace IsInRange

theorem pure (a : α) : IsInRange (Pure.pure a : ExceptT Error (StateM σ) α) :=
  fun _ h => nomatch h

theorem throw {e : Error} (h : e ≠ .outOfRange) :
    IsInRange (MonadExcept.throw e : ExceptT Error (StateM σ) α) :=
  fun _ he => h (Except.error.inj he)

theorem lift {x : Except Error α} (h : x ≠ .error .outOfRange) :
    IsInRange (liftM x : ExceptT Error (StateM σ) α) :=
  fun _ => h

theorem get : IsInRange (get : ExceptT Error (StateM σ) σ) :=
  fun _ h => nomatch h

theorem modify (f : σ → σ) : IsInRange (modify f : ExceptT Error (StateM σ) PUnit) :=
  fun _ h => nomatch h

theorem bind {x : ExceptT Error (StateM σ) α} {f : α → ExceptT Error (StateM σ) β}
    (hx : IsInRange x) (hf : ∀ a, IsInRange (f a)) : IsInRange (x >>= f) := by
  intro s
  rw [runOn_bind]
  have hxs := hx s
  cases h : runOn x s with
  | mk r t =>
    rw [h] at hxs
    cases r with
    | error e => exact fun he => hxs (congrArg Except.error (Except.error.inj he))
    | ok a => exact hf a t

theorem discard {x : ExceptT Error (StateM σ) α} (hx : IsInRange x) :
    IsInRange (Functor.discard x) := by
  rw [discard_eq_bind]
  exact hx.bind fun _ => .pure _

theorem ite {c : Prop} [Decidable c] {x y : ExceptT Error (StateM σ) α} (hx : IsInRange x)
    (hy : IsInRange y) : IsInRange (if c then x else y) := by
  split
  · exact hx
  · exact hy

end IsInRange

end

namespace Tx

theorem isInRange_ask {α : Type} (q : Store → α) : IsInRange (ask q) := .bind .get fun _ => .pure _

theorem isInRange_now : IsInRange now := .bind .get fun _ => .pure _

theorem isInRange_lockClass (classId : Int) : IsInRange (lockClass classId) :=
  .bind (.bind (.modify _) fun _ => isInRange_ask _) fun c => by
    cases c with
    | none => exact .throw Error.noConfusion
    | some c => exact .pure c

theorem isInRange_registration (id : Int) : IsInRange (registration id) :=
  .bind (isInRange_ask _) fun r => by
    cases r with
    | none => exact .throw Error.noConfusion
    | some r => exact .pure r

theorem isInRange_registrationByCode (code : String) : IsInRange (registrationByCode code) :=
  .bind (isInRange_ask _) fun r => by
    cases r with
    | none => exact .throw Error.noConfusion
    | some r => exact .pure r

theorem isInRange_changeRegistration (id : Int) (f : Registration → Registration) :
    IsInRange (changeRegistration id f) := by
  have hcharge : IsInRange charge := .bind (isInRange_ask _) fun budget => by
    match budget with
    | none => exact .pure _
    | some 0 => exact .throw Error.noConfusion
    | some (n + 1) => exact .modify _
  exact .bind hcharge fun _ => .bind (isInRange_registration id) fun _ => .modify _

theorem isInRange_setStatus (id : Int) (status : Status) : IsInRange (setStatus id status) :=
  .bind isInRange_now fun _ => isInRange_changeRegistration id _

theorem isInRange_applyChanges (active : List Registration) (changes : List Change) :
    IsInRange (applyChanges active changes) := by
  induction changes with
  | nil => exact .pure _
  | cons c cs ih => exact .bind (isInRange_setStatus _ _) fun _ => .bind ih fun _ => .pure _

theorem isInRange_rebalance (classId : Int) : IsInRange (rebalance classId) :=
  .bind (isInRange_lockClass classId) fun _ => .bind (isInRange_ask _) fun _ =>
    isInRange_applyChanges _ _

theorem isInRange_setCapacity (classId capacity : Int) : IsInRange (setCapacity classId capacity) :=
  .bind (isInRange_ask _) fun c => by
    cases c with
    | none => exact .throw Error.noConfusion
    | some c => exact .bind isInRange_now fun _ => .modify _

end Tx

namespace Enrollment

open Tx

theorem isInRange_cancelByCode (code : String) : IsInRange (cancelByCode code) := by
  refine .bind (isInRange_registrationByCode _) fun found => ?_
  -- whether it was canceled is asked before the class is locked, and again after that
  have hcanceled : ∀ id, IsInRange (Tx.cancel id) := fun id =>
    .bind isInRange_now fun _ => isInRange_changeRegistration id _
  refine .ite (.pure _) <| .bind (.discard (isInRange_lockClass found.classId)) fun _ => ?_
  refine .bind (isInRange_registration found.id) fun current => .ite (.pure _) ?_
  exact .bind (hcanceled current.id) fun _ => .bind (isInRange_rebalance _) fun _ =>
    .bind (isInRange_registration _) fun _ => .pure _

theorem isInRange_setCapacity (classId capacity : Int) : IsInRange (setCapacity classId capacity) :=
  .bind (.discard (isInRange_lockClass _)) fun _ =>
    .bind (Tx.isInRange_setCapacity classId capacity) fun _ =>
      .bind (isInRange_rebalance _) fun _ => .pure _

theorem isInRange_checkIn (code : String) : IsInRange (checkIn code) := by
  refine .bind (isInRange_registrationByCode _) fun found => ?_
  refine .bind (.discard (isInRange_lockClass found.classId)) fun _ => ?_
  refine .bind (isInRange_registration found.id) fun current => ?_
  refine .ite (.throw Error.noConfusion) <| .ite (.throw Error.noConfusion) ?_
  exact .bind isInRange_now fun _ => .bind (isInRange_changeRegistration current.id _) fun _ =>
    .pure _

theorem isInRange_occupancy (classId : Int) : IsInRange (occupancy classId) :=
  .bind (isInRange_ask _) fun o => by
    cases o with
    | none => exact .throw Error.noConfusion
    | some o => exact .pure _

theorem isInRange_status (code : String) : IsInRange (status code) :=
  .bind (isInRange_registrationByCode _) fun _ => .bind (isInRange_ask _) fun _ => .pure _

end Enrollment

namespace Service

variable {α : Type}

theorem isInRange_ask (q : Store → α) : IsInRange (ask q) := by
  have hconnect : IsInRange connect := .bind .get fun _ => .ite (.throw Error.noConfusion) (.pure _)
  exact .bind hconnect fun _ => .bind .get fun _ => .pure _

theorem isInRange_listOwn (chatId : Int) : IsInRange (listOwn chatId) := by
  refine .bind (isInRange_ask _) fun linked => ?_
  cases linked with
  | none => exact .throw Error.noConfusion
  | some parentId => exact .bind (.bind .get fun _ => .pure _) fun _ => isInRange_ask _

theorem with_nobody_ne_error {x : Service α} {d : Desk} {e : Error} (h : (runOn x d).1 ≠ .error e) :
    (runOn (do return (← x, ([] : List Registration))) d).1 ≠ .error e := by
  rw [runOn_with_nobody]
  exact map_ne_error h

theorem isInRange_settle {work : Tx (Verdict α)} (h : IsInRange work) :
    IsInRange (settle work) := by
  intro d
  cases online : d.online with
  | false =>
    unfold settle
    rw [runOn_bind_error (runOn_connect_of_offline online)]
    exact fun he => nomatch he
  | true =>
    have hwork := h d.session
    rw [runOn_settle work online]
    generalize runOn work d.session = y at hwork
    obtain ⟨e | ⟨a, promoted⟩ | a, s⟩ := y
    · exact fun he => hwork (congrArg Except.error (Except.error.inj he))
    · cases d.commitFails <;> exact fun he => nomatch he
    · exact fun he => nomatch he

end Service

/-! ### What a chat can ask for -/

/-- Whether a command can ask for the errand. -/
def Errand.isFromChat : Errand → Bool
  | .nothing | .status _ | .occupancy _ | .issue _ | .link .. | .list _ => true
  | .operation (.cancelByCode _) | .operation (.checkIn _) | .operation (.setCapacity ..) => true
  | .operation _ | .conflicts .. => false

/-- What a command may ask for. -/
structure Understood.IsSound (u : Understood) (line : CommandLine) : Prop where
  chat : u.errand.isFromChat = true
  issues : ∀ parentId, u.errand = .issue parentId → line.command = .linkcode
  worded : ∀ a, u.wording a ≠ .error .outOfRange

/-- **A command asks for what a chat can ask for**, and if there is a time zone the answer can be
worded. -/
theorem CommandLine.isSound_of_understand {s : Settings} {m : Sender} {line : CommandLine}
    {u : Understood} {zone : Offset} (zoned : s.enrollment.zone = .ok zone)
    (h : line.understand s m = .ok u) : u.IsSound line := by
  obtain ⟨command, typed⟩ := line
  unfold understand at h
  dsimp only at h
  rw [zoned] at h
  cases command with
  | start | help | link | my =>
    obtain rfl := Except.ok.inj h
    exact ⟨rfl, (fun _ h => nomatch h), (fun _ h => nomatch h)⟩
  | status | cancel =>
    obtain ⟨code, -, h⟩ := bind_eq_ok_iff.1 h
    obtain rfl := Except.ok.inj h
    exact ⟨rfl, (fun _ h => nomatch h), (fun _ h => nomatch h)⟩
  -- before anything else, the sender has to be an admin
  | checkin | capacity | roster =>
    obtain ⟨-, -, h⟩ := bind_eq_ok_iff.1 h
    obtain ⟨typed, -, h⟩ := bind_eq_ok_iff.1 h
    obtain rfl := Except.ok.inj h
    exact ⟨rfl, (fun _ h => nomatch h), (fun _ h => nomatch h)⟩
  | linkcode =>
    obtain ⟨-, -, h⟩ := bind_eq_ok_iff.1 h
    obtain ⟨typed, -, h⟩ := bind_eq_ok_iff.1 h
    obtain rfl := Except.ok.inj h
    exact ⟨rfl, (fun _ _ => rfl), (fun _ h => nomatch h)⟩

namespace Argument

variable {typed : String}

theorem number_ne_outOfRange (usage : String) : number usage typed ≠ .error .outOfRange := by
  unfold number
  split <;> exact fun h => nomatch h

theorem classAndCapacity_ne_outOfRange : classAndCapacity typed ≠ .error .outOfRange := by
  unfold classAndCapacity
  split
  · split <;> exact fun h => nomatch h
  · exact fun h => nomatch h

theorem code_ne_outOfRange (s : Settings) (command : Command) :
    code s command typed ≠ .error .outOfRange := by
  unfold code
  split <;> exact fun h => nomatch h

end Argument

theorem Sender.requireAdmin_ne_outOfRange (s : Settings) (m : Sender) :
    m.requireAdmin s ≠ .error .outOfRange := by
  refine bind_ne_error ?_ fun user => ?_
  · unfold userId
    split <;> exact fun h => nomatch h
  · cases s.isAdmin user <;> exact fun h => nomatch h

/-- A command is refused for other reasons. -/
theorem CommandLine.understand_ne_outOfRange (s : Settings) (m : Sender) (line : CommandLine) :
    line.understand s m ≠ .error .outOfRange := by
  obtain ⟨command, typed⟩ := line
  unfold understand
  have hadmin := m.requireAdmin_ne_outOfRange s
  cases command with
  | start | help | link | my => exact fun h => nomatch h
  | status | cancel =>
    exact bind_ne_error (Argument.code_ne_outOfRange s _) fun _ h => nomatch h
  | checkin =>
    exact bind_ne_error hadmin fun _ =>
      bind_ne_error (Argument.code_ne_outOfRange s _) fun _ h => nomatch h
  | capacity =>
    exact bind_ne_error hadmin fun _ =>
      bind_ne_error Argument.classAndCapacity_ne_outOfRange fun _ h => nomatch h
  | roster | linkcode =>
    exact bind_ne_error hadmin fun _ =>
      bind_ne_error (Argument.number_ne_outOfRange _) fun _ h => nomatch h

namespace Errand

/-- **Settling what a chat asks for stays in range**, unless a link code would be good for too
long. -/
theorem settle_ne_outOfRange {errand : Errand} {office : Office} {d : Desk}
    (chat : errand.isFromChat = true)
    (due : ∀ parentId, errand = .issue parentId →
      d.now.afterMinutes? office.settings.enrollment.linkCodeMinutes ≠ none) :
    (runOn (errand.settle office) d).1 ≠ .error .outOfRange := by
  cases errand with
  | nothing => exact fun h => nomatch h
  | conflicts => exact nomatch chat
  | status code => exact Service.isInRange_settle (Enrollment.isInRange_status code) d
  | occupancy classId => exact Service.isInRange_settle (Enrollment.isInRange_occupancy classId) d
  | operation op =>
    cases op with
    | create | cancelById | delete | rebalance => exact nomatch chat
    | cancelByCode code =>
      exact IsInRange.bind (.pure _) (fun _ =>
        Service.isInRange_settle (Enrollment.isInRange_cancelByCode code)) d
    | checkIn code =>
      exact IsInRange.bind (.pure _) (fun _ =>
        Service.isInRange_settle (Enrollment.isInRange_checkIn code)) d
    | setCapacity classId capacity =>
      have hcheck : Enrollment.checkCapacity capacity ≠ .error .outOfRange := by
        unfold Enrollment.checkCapacity
        split <;> exact fun h => nomatch h
      exact IsInRange.bind (.lift hcheck) (fun _ =>
        Service.isInRange_settle (Enrollment.isInRange_setCapacity classId capacity)) d
  | issue parentId =>
    refine Service.with_nobody_ne_error (fun endless => ?_)
    have hissues := Service.issues office d parentId
    rw [endless] at hissues
    generalize (runOn (Service.issueLinkCode office parentId) d).2 = t at hissues
    cases hissues with
    | endless h => exact due parentId rfl h
  | link typed chatId =>
    refine Service.with_nobody_ne_error (fun endless => ?_)
    have hlinks := Service.links d typed chatId
    rw [endless] at hlinks
    exact nomatch hlinks
  | list chatId => exact Service.with_nobody_ne_error (Service.isInRange_listOwn chatId d)

end Errand

end EnrollmentDesk
