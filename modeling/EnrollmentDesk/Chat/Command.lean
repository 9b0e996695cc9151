import EnrollmentDesk.Text.Parts

/-!
# Commands

A chat message that is a command has a word after a slash, perhaps with the name of the bot it is
meant for, and after the first space its argument. A message for another bot is no command here,
whatever its word.
-/

namespace EnrollmentDesk

/-- What the bot can be asked. -/
inductive Command where
  | start
  | help
  | link
  | my
  | status
  | cancel
  | checkin
  | capacity
  | roster
  | linkcode
deriving DecidableEq

namespace Command

/-- All commands, in the order in which they are listed. -/
def all : List Command :=
  [start, help, link, my, status, cancel, checkin, capacity, roster, linkcode]

/-- The word of a command. -/
def word : Command → String
  | start => "/start"
  | help => "/help"
  | link => "/link"
  | my => "/my"
  | status => "/status"
  | cancel => "/cancel"
  | checkin => "/checkin"
  | capacity => "/capacity"
  | roster => "/roster"
  | linkcode => "/linkcode"

/-- What a command does, for the list of commands. -/
def description : Command → String
  | start => "Start the bot"
  | help => "Show help information"
  | link => "Link this chat to your parent account: /link CODE"
  | my => "List your upcoming registrations"
  | status => "Show a registration: /status CODE"
  | cancel => "Cancel a registration: /cancel CODE"
  | checkin => "Check a child in (admin only): /checkin CODE"
  | capacity => "Change class capacity (admin only): /capacity CLASS_ID N"
  | roster => "Show class seats (admin only): /roster CLASS_ID"
  | linkcode => "Issue a chat link code (admin only): /linkcode PARENT_ID"

/-- Whether what follows the word means anything. -/
def takesArgument : Command → Bool
  | start | help | my => false
  | _ => true

/-- The list of commands. -/
def overview : String :=
  "All available bot commands\nSeatKeeper commands:\n\n" ++
    "\n".intercalate (all.map fun c => c.word ++ " — " ++ c.description)

end Command

/-- A command with what was typed after it; empty for a command without an argument. -/
structure CommandLine where
  command : Command
  argument : String
deriving DecidableEq

/-- Why a message is no command for this bot. -/
inductive CommandFault where
  | unknown (word : String)
  | otherBot (name : String)
deriving DecidableEq

namespace CommandLine

open Text

/-- Whether two names differ in the case of ASCII letters only. -/
def sameName (a b : List Char) : Bool :=
  a.map Char.toLower = b.map Char.toLower

/-- Reads a message to the bot of the given name. -/
def read (bot text : String) : Except CommandFault CommandLine :=
  let (first, argument) := (cutAt (· = ' ') text.toList).getD (text.toList, [])
  match parts (· = '@') first with
  | _ :: name :: _ =>
    if sameName name bot.toList then ofWord (first.takeWhile (· ≠ '@')) argument
    else .error (.otherBot (.ofList name))
  | _ => ofWord first argument
where
  /-- The command of a word, with what was typed after it. -/
  ofWord (word argument : List Char) : Except CommandFault CommandLine :=
    match Command.all.find? fun c => c.word.toList = word with
    | some c => .ok ⟨c, if c.takesArgument then .ofList argument else ""⟩
    | none => .error (.unknown (.ofList word))

end CommandLine

end EnrollmentDesk
