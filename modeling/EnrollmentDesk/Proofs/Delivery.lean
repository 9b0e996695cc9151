import EnrollmentDesk.Proofs.Errand

/-!
# Deliveries decide nothing

Whether a message is delivered, and what a listener answers, is for others to say. Two offices that
differ in nothing else are *alike* (`Office.Alike`), and then two desks that are run the same way
stay the same in all but what they sent: a message that could not be delivered has no picture after
it, and a reply that could not be delivered is followed by an explanation.

That is so because an errand is settled before anybody is told (`Errand.isQuiet_settle`), and what
is told afterwards is caught. So the argument is made once for an errand (`Errand.perform_alike`);
a command adds the wording, which is the same, and the answer, which only sends.

## Main statements

* `Errand.perform_alike` — one errand at two desks that differ in what they sent;
* `Desk.deliveries_decide_nothing` — what two runs have in common.
-/

namespace EnrollmentDesk

/-- The offices differ at most in what listeners and the chat service answer. -/
structure Office.Alike (office office' : Office) : Prop where
  settings : office.settings = office'.settings
  listeners : office.listeners.length = office'.listeners.length

/-- The desk without the record of what it sent. -/
def Desk.unsent (d : Desk) : Desk :=
  { d with sent := [] }

namespace Desk

variable {d d' : Desk}

theorem calls_eq_of_unsent_eq (h : d.unsent = d'.unsent) : d.calls = d'.calls := by
  have hcalls : d.unsent.calls = d'.unsent.calls := congrArg Desk.calls h
  exact hcalls

/-- Desks that differ in what they sent at most. -/
theorem eq_of_unsent_eq (h : d.unsent = d'.unsent) : d' = d.recording d'.sent d.calls := by
  calc d'
    _ = d'.unsent.recording d'.sent d'.calls := rfl
    _ = d.unsent.recording d'.sent d.calls := by rw [h, calls_eq_of_unsent_eq h]
    _ = d.recording d'.sent d.calls := rfl

end Desk

/-! ### Errands -/

namespace Service

variable {office office' : Office}

theorem callsAbout_congr (alike : office.Alike office') (promoted : List Registration) :
    callsAbout office promoted = callsAbout office' promoted := by
  unfold callsAbout
  rw [alike.listeners]

/-- One registration after the other, and each time the listeners in their order. -/
theorem callsAbout_eq_flatMap (office : Office) (promoted : List Registration) :
    callsAbout office promoted = promoted.flatMap fun r =>
      (List.range office.listeners.length).map fun position => ⟨position, r⟩ := by
  have hfrom : ∀ (r : Registration) (first n : Nat),
      callsFrom r first n = (List.range' first n).map fun position => ⟨position, r⟩ := by
    intro r first n
    induction n generalizing first with
    | zero => rfl
    | succ n ih => rw [callsFrom, ih, List.range'_succ, List.map_cons]
  unfold callsAbout
  simp only [hfrom, List.range_eq_range']

theorem callsAbout_append (office : Office) (promoted promoted' : List Registration) :
    callsAbout office (promoted ++ promoted') =
      callsAbout office promoted ++ callsAbout office promoted' :=
  List.flatMap_append

end Service

namespace Errand

variable {office office' : Office} {d d' : Desk} (errand : Errand)

/-- **An errand has the same answer and the same effect** at desks that differ in what they sent. -/
theorem perform_alike (alike : office.Alike office') (h : d.unsent = d'.unsent) :
    (runOn (errand.perform office) d).1 = (runOn (errand.perform office') d').1 ∧
      (runOn (errand.perform office) d).2.unsent =
        (runOn (errand.perform office') d').2.unsent := by
  -- up to the point where someone is told the desks do the same
  have hsettle : runOn (errand.settle office') (d.recording d'.sent d.calls) =
      ((runOn (errand.settle office) d).1,
        (runOn (errand.settle office) d).2.recording d'.sent d.calls) := by
    rw [← errand.settle_congr alike.settings]
    exact errand.isQuiet_settle office d d'.sent d.calls
  rw [← Desk.eq_of_unsent_eq h] at hsettle
  have hcalls : (runOn (errand.settle office) d).2.calls = d.calls :=
    ((errand.isQuiet_settle office).record_eq d).2
  rw [errand.runOn_perform office, errand.runOn_perform office', hsettle]
  generalize runOn (errand.settle office) d = y at hcalls ⊢
  -- and the calls about those promoted are the same
  obtain ⟨sent, htold⟩ := Service.exists_told office y
  obtain ⟨sent', htold'⟩ := Service.exists_told office' (y.1, y.2.recording d'.sent d.calls)
  rw [htold, htold', hcalls, Service.callsAbout_congr alike]
  exact ⟨rfl, rfl⟩

/-- An errand calls the listeners about those promoted, one after the other. -/
theorem exists_calls_perform (office : Office) (d : Desk) :
    ∃ promoted, (runOn (errand.perform office) d).2.calls =
      d.calls ++ Service.callsAbout office promoted := by
  have hcalls : (runOn (errand.settle office) d).2.calls = d.calls :=
    ((errand.isQuiet_settle office).record_eq d).2
  obtain ⟨sent, htold⟩ := Service.exists_told office (runOn (errand.settle office) d)
  rw [errand.runOn_perform office, htold, ← hcalls]
  exact ⟨_, rfl⟩

end Errand

/-! ### Commands -/

namespace Service

variable {office office' : Office} {d d' : Desk} (m : Sender) (line : CommandLine)

theorem reply_alike (alike : office.Alike office') (h : d.unsent = d'.unsent) :
    (runOn (reply office m line) d).1 = (runOn (reply office' m line) d').1 ∧
      (runOn (reply office m line) d).2.unsent = (runOn (reply office' m line) d').2.unsent := by
  rw [runOn_reply, runOn_reply, ← alike.settings]
  cases line.understand office.settings m with
  | error e => exact ⟨rfl, h⟩
  | ok u =>
    obtain ⟨hanswer, hdesk⟩ := u.errand.perform_alike alike h
    exact ⟨congrArg (Except.bind · u.wording) hanswer, hdesk⟩

theorem unsent_report (office : Office) (chatId : Int) (e : Error) (d : Desk) :
    (runOn (report office chatId e) d).2.unsent = d.unsent := by
  by_cases h : e = .outOfRange
  · rw [h, runOn_report_outOfRange]
  · rw [runOn_report h]
    rfl

/-- The answer to a command changes nothing but the record of what was sent. -/
theorem unsent_handle (office : Office) (d : Desk) :
    (runOn (handle office m line) d).2.unsent = (runOn (reply office m line) d).2.unsent := by
  cases hreply : runOn (reply office m line) d with
  | mk x t =>
    cases x with
    | error e =>
      rw [runOn_handle_of_error hreply]
      exact unsent_report office m.chatId e t
    | ok r =>
      rw [runOn_handle_of_ok hreply]
      cases office.delivery t.sent.length (r.to m.chatId) with
      | ok _ => rfl
      | error fault => exact unsent_report office m.chatId fault _

theorem exists_calls_handle (office : Office) (d : Desk) :
    ∃ promoted, (runOn (handle office m line) d).2.calls =
      d.calls ++ callsAbout office promoted := by
  rw [Desk.calls_eq_of_unsent_eq (unsent_handle m line office d), runOn_reply]
  cases line.understand office.settings m with
  | error e => exact ⟨[], (List.append_nil _).symm⟩
  | ok u => exact u.errand.exists_calls_perform office d

end Service

/-! ### Runs -/

/-- What may happen during a shift at the desk. -/
inductive Shift.Event where
  | errand (errand : Errand)
  | command (m : Sender) (line : CommandLine)
  | clock (now : Instant)
  | draws (draws : Draws)
  | budget (budget : Option Nat)

namespace Shift

/-- The desk after an event. -/
def next (office : Office) (d : Desk) : Event → Desk
  | .errand errand => (runOn (errand.perform office) d).2
  | .command m line => (runOn (Service.handle office m line) d).2
  | .clock now => { d with now }
  | .draws draws => { d with draws }
  | .budget budget => { d with store := d.store.limited budget }

/-- The desk after events. -/
def run (office : Office) (d : Desk) (events : List Event) : Desk :=
  events.foldl (next office) d

variable {office office' : Office} {d d' : Desk}

theorem next_alike (alike : office.Alike office') (h : d.unsent = d'.unsent) (event : Event) :
    (next office d event).unsent = (next office' d' event).unsent := by
  cases event with
  | errand errand => exact (errand.perform_alike alike h).2
  | command m line =>
    have hreply := (Service.reply_alike m line alike h).2
    calc (next office d (.command m line)).unsent
      _ = (runOn (Service.reply office m line) d).2.unsent := Service.unsent_handle m line office d
      _ = (runOn (Service.reply office' m line) d').2.unsent := hreply
      _ = (next office' d' (.command m line)).unsent :=
        (Service.unsent_handle m line office' d').symm
  | clock now => exact congrArg (fun d : Desk => { d with now }) h
  | draws draws => exact congrArg (fun d : Desk => { d with draws }) h
  | budget budget => exact congrArg (fun d : Desk => { d with store := d.store.limited budget }) h

/-- After any run the desks differ in what they sent at most. -/
theorem run_alike (alike : office.Alike office') (h : d.unsent = d'.unsent) (events : List Event) :
    (run office d events).unsent = (run office' d' events).unsent := by
  induction events generalizing d d' with
  | nil => exact h
  | cons event events ih => exact ih (next_alike alike h event)

theorem exists_calls_next (office : Office) (d : Desk) (event : Event) :
    ∃ promoted, (next office d event).calls = d.calls ++ Service.callsAbout office promoted := by
  cases event with
  | errand errand => exact errand.exists_calls_perform office d
  | command m line => exact Service.exists_calls_handle m line office d
  | clock | draws | budget => exact ⟨[], (List.append_nil _).symm⟩

theorem exists_calls_run (office : Office) (d : Desk) (events : List Event) :
    ∃ promoted, (run office d events).calls = d.calls ++ Service.callsAbout office promoted := by
  induction events generalizing d with
  | nil => exact ⟨[], (List.append_nil _).symm⟩
  | cons event events ih =>
    obtain ⟨first, hfirst⟩ := exists_calls_next office d event
    obtain ⟨rest, hrest⟩ := ih (next office d event)
    refine ⟨first ++ rest, ?_⟩
    rw [Service.callsAbout_append, ← List.append_assoc, ← hfirst]
    exact hrest

end Shift

/-- **Deliveries decide nothing.** Whatever messages are delivered and whatever the listeners
answer, after the same events the desk is the same but for the record of what it sent; every errand
then has the same answer, and every command the same reply or error. The listeners have been called
about the same registrations, about one after the other, and each time in their order. -/
theorem Desk.deliveries_decide_nothing {office office' : Office} (alike : office.Alike office')
    (d : Desk) (events : List Shift.Event) :
    Shift.run office' d events =
        { Shift.run office d events with sent := (Shift.run office' d events).sent } ∧
      (∀ errand : Errand, (runOn (errand.perform office) (Shift.run office d events)).1 =
        (runOn (errand.perform office') (Shift.run office' d events)).1) ∧
      (∀ m line, (runOn (Service.reply office m line) (Shift.run office d events)).1 =
        (runOn (Service.reply office' m line) (Shift.run office' d events)).1) ∧
      ∃ promoted : List Registration,
        (Shift.run office d events).calls = d.calls ++ promoted.flatMap (fun r =>
          (List.range office.listeners.length).map fun position => ⟨position, r⟩) ∧
        (Shift.run office' d events).calls = (Shift.run office d events).calls := by
  have same : (Shift.run office d events).unsent = (Shift.run office' d events).unsent :=
    Shift.run_alike alike rfl events
  refine ⟨Desk.eq_of_unsent_eq same, fun errand => (errand.perform_alike alike same).1,
    fun m line => (Service.reply_alike m line alike same).1, ?_⟩
  obtain ⟨promoted, hcalls⟩ := Shift.exists_calls_run office d events
  rw [Service.callsAbout_eq_flatMap] at hcalls
  exact ⟨promoted, hcalls, (Desk.calls_eq_of_unsent_eq same).symm⟩

namespace Sample

/-- An office whose chat service refuses everything, and whose listeners answer otherwise. -/
def deafOffice : Office where
  settings := {}
  listeners := [.family .utc none, .watcher fun _ _ => some .linkCodeInvalid]
  refusal := fun _ _ => some .blocked

/-- The seat is given up, and then someone asks for the welcome. -/
def shift : List Shift.Event :=
  [.errand (.operation (.cancelById 1)), .command ⟨7, none⟩ ⟨.start, ""⟩]

/-- The welcome is not delivered there, nor is the explanation. The seat is handed on as it is where
all is delivered, and two listeners are called. -/
theorem deaf_office_keeps_pace :
    office.Alike deafOffice ∧
      (Shift.run office desk shift).sent.length = 1 ∧
      (Shift.run deafOffice desk shift).sent.length = 2 ∧
      (Shift.run deafOffice desk shift).store = (Shift.run office desk shift).store ∧
      (Shift.run deafOffice desk shift).store.registrations.get? late.id =
        some { late with status := .confirmed, updatedAt := ⟨10⟩ } ∧
      (Shift.run deafOffice desk shift).calls = (Shift.run office desk shift).calls ∧
      (Shift.run deafOffice desk shift).calls.length = 2 := by
  have alike : office.Alike deafOffice := ⟨rfl, rfl⟩
  obtain ⟨same, -, -, promoted, -, hcalls⟩ := Desk.deliveries_decide_nothing alike desk shift
  have hstore : (Shift.run deafOffice desk shift).store = (Shift.run office desk shift).store := by
    rw [same]
  refine ⟨alike, rfl, rfl, hstore, ?_, hcalls, ?_⟩
  · rw [hstore]
    rfl
  · rw [hcalls]
    rfl

end Sample

end EnrollmentDesk
