import EnrollmentDesk.Chat.Command
import EnrollmentDesk.Chat.Wording
import EnrollmentDesk.Desk.Account
import EnrollmentDesk.Desk.Registering

/-!
# Answering commands

Every command gets one answer in the chat it came from: what it asked for, or why not. A refusal
ends there; a failure of the machinery is also handed on to whoever runs the bot. If not even the
answer can be delivered, that is the failure handed on.

Some commands are for admins, and are refused before anything typed after them is looked at.
-/

namespace EnrollmentDesk

/-- Who typed a command, and where. -/
structure Sender where
  chatId : Int
  /-- Absent in a message that no user sent. -/
  user : Option Nat
deriving DecidableEq

/-- What the bot says. -/
structure Reply where
  text : String
  markup : Bool
deriving DecidableEq

/-- The number of a user as a signed 64-bit number. -/
def signedUser (n : Nat) : Int :=
  if Range.signed64.contains n then n else (n : Int) - (Range.unsigned64.hi + 1)

namespace Argument

/-- One number. -/
def number (usage : String) (typed : String) : Except Error Int :=
  match Numeral.readInt .signed64 (Text.trimChars typed.toList) with
  | some n => .ok n
  | none => .error (.badInput usage)

/-- The number of a class. -/
def classId (typed : String) : Except Error Int :=
  number Wording.rosterUsage typed

/-- The number of a class and a capacity. -/
def classAndCapacity (typed : String) : Except Error (Int × Int) :=
  match Text.words typed.toList with
  | [a, b] =>
    match Numeral.readInt .signed64 a, Numeral.readInt .signed32 b with
    | some classId, some capacity => .ok (classId, capacity)
    | _, _ => .error (.badInput Wording.capacityUsage)
  | _ => .error (.badInput Wording.capacityUsage)

/-- A registration code, written in full. -/
def code (s : Settings) (command : Command) (typed : String) : Except Error String :=
  match RegistrationCode.normalize s.enrollment.codeWord typed with
  | some c => .ok c
  | none => .error (.badInput (Wording.codeUsage command.word s.enrollment.codeWord))

end Argument

namespace Sender

/-- The number of the user, who has to be there. -/
def userId (m : Sender) : Except Error Int :=
  match m.user with
  | some n => .ok (signedUser n)
  | none => .error (.badInput "No user in message")

/-- Whether an admin sent the command. -/
def isAdmin (s : Settings) (m : Sender) : Bool :=
  match m.user with
  | some n => s.isAdmin (signedUser n)
  | none => false

/-- Refuses everyone but admins. -/
def requireAdmin (s : Settings) (m : Sender) : Except Error Unit := do
  let user ← m.userId
  if !s.isAdmin user then
    throw (.permissionDenied ("User " ++ Numeral.ofInt user ++ " is not an admin"))

end Sender

namespace Service

variable (office : Office)

/-- Does what a command asks, and says what to answer. -/
def reply (m : Sender) (line : CommandLine) : Service Reply := do
  let s := office.settings
  let typed := line.argument
  match line.command with
  | .start => return ⟨Wording.welcome, false⟩
  | .help => return ⟨Wording.help (m.isAdmin s), false⟩
  | .link =>
    let parent ← linkChat typed m.chatId
    return ⟨Wording.linked parent, true⟩
  | .my =>
    let rs ← listOwn m.chatId
    return ⟨Wording.listing (← s.enrollment.zone) rs, true⟩
  | .status =>
    let placement ← status office (← Argument.code s .status typed)
    return ⟨Wording.status (← s.enrollment.zone) placement, true⟩
  | .cancel =>
    let cancellation ← cancelByCode office (← Argument.code s .cancel typed)
    return ⟨Wording.cancellation cancellation, true⟩
  | .checkin =>
    m.requireAdmin s
    let r ← checkIn office (← Argument.code s .checkin typed)
    return ⟨Wording.checkedIn r, true⟩
  | .capacity =>
    m.requireAdmin s
    let (classId, capacity) ← Argument.classAndCapacity typed
    let promoted ← setCapacity office classId capacity
    return ⟨Wording.capacitySet classId capacity promoted.length, false⟩
  | .roster =>
    m.requireAdmin s
    let o ← occupancy office (← Argument.classId typed)
    return ⟨Wording.roster o, true⟩
  | .linkcode =>
    m.requireAdmin s
    let issued ← issueLinkCode office (← Argument.number Wording.linkCodeUsage typed)
    return ⟨Wording.linkCode (← s.enrollment.zone) issued, true⟩

/-- Tells the chat why a command failed, and hands a failure of the machinery on. -/
def report (chatId : Int) (e : Error) : Service Unit := do
  if e = .outOfRange then throw e
  send office (.message chatId e.userMessage false)
  match e.severity with
  | .info | .warning => pure ()
  | _ => throw e

/-- Answers a command. -/
def handle (m : Sender) (line : CommandLine) : Service Unit := do
  try
    let r ← reply office m line
    send office (.message m.chatId r.text r.markup)
  catch e => report office m.chatId e

end Service

end EnrollmentDesk
