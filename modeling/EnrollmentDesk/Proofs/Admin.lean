import EnrollmentDesk.Proofs.Errand

/-!
# Commands for admins

Four commands are for admins. Whoever else gives one is refused before anything typed after it is
read and before the desk is looked at: the desk stays as it is, and one message goes to the chat the
command came from. What it says depends on the sender alone (`Sender.refusal`), and there only on
whether there is one. So nobody learns from it what the desk knows, nor whether what was typed would
have meant anything.

## Main statements

* `CommandLine.understand_of_not_admin` — such a command is refused unread;
* `Desk.closed_to_others` — what comes of it.
-/

namespace EnrollmentDesk

/-- Whether only admins may give the command. -/
def Command.isForAdmins : Command → Bool
  | .checkin | .capacity | .roster | .linkcode => true
  | .start | .help | .link | .my | .status | .cancel => false

namespace Sender

/-- What a sender is told who gives a command for admins and is none. -/
def refusal (m : Sender) : Reply :=
  match m.user with
  | none => ⟨"No user in message", false⟩
  | some _ => ⟨"You are not allowed to do that.", false⟩

variable {m : Sender} {s : Settings}

/-- The refusal is explained in the chat, and nobody else hears of it. -/
theorem requireAdmin_of_not_admin (h : ∀ n, m.user = some n → signedUser n ∉ s.bot.adminIds) :
    ∃ e, m.requireAdmin s = .error e ∧ Reply.ofError e = m.refusal ∧ e ≠ .outOfRange ∧
      e.passedOn = .ok () := by
  obtain ⟨chatId, user⟩ := m
  cases user with
  | none => exact ⟨.badInput "No user in message", rfl, rfl, Error.noConfusion, rfl⟩
  | some n =>
    refine ⟨.permissionDenied ("User " ++ Numeral.ofInt (signedUser n) ++ " is not an admin"),
      ?_, rfl, Error.noConfusion, rfl⟩
    have hother : s.isAdmin (signedUser n) = false := by
      have hmem : signedUser n ∉ s.bot.adminIds := h n rfl
      unfold Settings.isAdmin
      rw [List.contains_eq_mem, decide_eq_false hmem]
    unfold requireAdmin userId
    dsimp only
    change (if (!s.isAdmin (signedUser n)) = true then _ else _) = _
    rw [hother]
    rfl

end Sender

/-- **A command for admins is refused unread**, if there is a refusal. -/
theorem CommandLine.understand_of_not_admin {line : CommandLine} {s : Settings} {m : Sender}
    {e : Error} (admin : line.command.isForAdmins = true) (h : m.requireAdmin s = .error e) :
    line.understand s m = .error e := by
  obtain ⟨command, typed⟩ := line
  unfold understand
  cases command with
  | start | help | link | my | status | cancel => exact nomatch admin
  | checkin | capacity | roster | linkcode =>
    dsimp only
    rw [h]
    rfl

/-- **Commands for admins are closed to everyone else.** The desk is left as it was, but for one
request on the record: a message to the chat the command came from. It is the same whatever the
command is, whatever was typed after it, and whatever the desk holds, so that by the answers no two
desks can be told apart. -/
theorem Desk.closed_to_others (office : Office) (m : Sender)
    (other : ∀ n, m.user = some n → signedUser n ∉ office.settings.bot.adminIds) :
    (∀ (line : CommandLine) (d : Desk), line.command.isForAdmins = true →
      runOn (Service.handle office m line) d =
        (office.delivery d.sent.length (m.refusal.to m.chatId),
          { d with sent := d.sent ++ [m.refusal.to m.chatId] })) ∧
    ∀ (line line' : CommandLine) (d d' : Desk), line.command.isForAdmins = true →
      line'.command.isForAdmins = true → ∃ answer : Request, answer.chatId = m.chatId ∧
        (runOn (Service.handle office m line) d).2.sent = d.sent ++ [answer] ∧
        (runOn (Service.handle office m line') d').2.sent = d'.sent ++ [answer] := by
  obtain ⟨e, hadmin, hanswer, hrange, hquiet⟩ := Sender.requireAdmin_of_not_admin other
  have closed : ∀ (line : CommandLine) (d : Desk), line.command.isForAdmins = true →
      runOn (Service.handle office m line) d =
        (office.delivery d.sent.length (m.refusal.to m.chatId),
          { d with sent := d.sent ++ [m.refusal.to m.chatId] }) := by
    intro line d admin
    have hreply : runOn (Service.reply office m line) d = (.error e, d) := by
      rw [Service.runOn_reply, line.understand_of_not_admin admin hadmin]
    rw [Service.runOn_handle_of_error hreply, Service.runOn_report hrange, hanswer, hquiet]
    -- the error is a refusal, so nothing comes after its delivery
    cases office.delivery d.sent.length (m.refusal.to m.chatId) <;> rfl
  refine ⟨closed, fun line line' d d' admin admin' => ⟨m.refusal.to m.chatId, rfl, ?_, ?_⟩⟩
  · rw [closed line d admin]
  · rw [closed line' d' admin']

namespace Sample

/-- Nobody is an admin at the sample office. A user who asks for the seats of a class that is there,
and for a link code of a parent who is not, is told the same. -/
theorem stranger_is_told_the_same :
    (∀ n, (⟨7, some 3⟩ : Sender).user = some n → signedUser n ∉ office.settings.bot.adminIds) ∧
      (runOn (Service.handle office ⟨7, some 3⟩ ⟨.roster, "1"⟩) desk).2.sent =
        [.message 7 "You are not allowed to do that." false] ∧
      (runOn (Service.handle office ⟨7, some 3⟩ ⟨.linkcode, "x"⟩) desk).2.sent =
        [.message 7 "You are not allowed to do that." false] := by
  have other : ∀ n, (⟨7, some 3⟩ : Sender).user = some n →
      signedUser n ∉ office.settings.bot.adminIds := fun _ _ => List.not_mem_nil
  obtain ⟨closed, -⟩ := Desk.closed_to_others office ⟨7, some 3⟩ other
  refine ⟨other, ?_, ?_⟩
  · rw [closed ⟨.roster, "1"⟩ desk rfl]
    rfl
  · rw [closed ⟨.linkcode, "x"⟩ desk rfl]
    rfl

end Sample

end EnrollmentDesk
