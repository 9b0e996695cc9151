import EnrollmentDesk.Calendar.Format
import EnrollmentDesk.Text.Parts
import EnrollmentDesk.Text.Quoted

/-!
# Events of the log

An event has a level, a message and fields, texts or numbers, in a fixed order. A field without a
value is left out of what is written, but the event has it.

An event is written as a line. Its message may hold what somebody typed, so the control characters
by which a terminal could be misled are written as escapes; a line break is kept, and then the event
takes more than one line.
-/

namespace EnrollmentDesk

/-- How grave an event is, the gravest first. -/
inductive Level where
  | error
  | warning
  | info
  | debug
  | trace
deriving DecidableEq

namespace Level

/-- The word for a level. -/
def name : Level → String
  | error => "ERROR"
  | warning => "WARN"
  | info => "INFO"
  | debug => "DEBUG"
  | trace => "TRACE"

/-- How much is shown at a level: everything up to it. -/
def rank : Level → Nat
  | error => 1
  | warning => 2
  | info => 3
  | debug => 4
  | trace => 5

end Level

/-- The value of a field. -/
inductive LogValue where
  | text (s : String)
  | number (n : Int)
deriving DecidableEq

/-- Something that happened. -/
structure LogEvent where
  level : Level
  /-- The part of the program that says so. -/
  target : String
  message : String
  /-- A value may be absent. -/
  fields : List (String × Option LogValue) := []
deriving DecidableEq

namespace LogEvent

/-- The part of the program that keeps the log. -/
def logTarget : String := "SeatKeeper::utils::logging"

/-- A text that may be absent. -/
def textField (name : String) (value : Option String) : String × Option LogValue :=
  (name, value.map .text)

/-- The fields that have a value. -/
def given (e : LogEvent) : List (String × LogValue) :=
  e.fields.filterMap fun (name, value) => value.map fun v => (name, v)

/-- The names of all that an event says, whether it has a value or not. -/
def names (e : LogEvent) : List String :=
  "message" :: e.fields.map Prod.fst

/-- The log has begun. -/
def initialized (level : String) : LogEvent :=
  ⟨.info, logTarget, "Logging initialized with level: " ++ level, []⟩

/-- Something was done with a registration. -/
def enrollmentAction (action : String) (registrationId classId : Int) (details : Option String) :
    LogEvent :=
  ⟨.info, logTarget, "Enrollment action performed",
    [("action", some (.text action)), ("registration_id", some (.number registrationId)),
      ("class_id", some (.number classId)), textField "details" details]⟩

/-- A class was rebalanced. -/
def rebalance (classId : Int) (changed promoted demoted : Nat) : LogEvent :=
  if changed = 0 then
    ⟨.debug, logTarget, "Rebalance left class unchanged", [("class_id", some (.number classId))]⟩
  else
    ⟨.info, logTarget, "Rebalance updated seat assignments",
      [("class_id", some (.number classId)), ("changed", some (.number changed)),
        ("promoted", some (.number promoted)), ("demoted", some (.number demoted))]⟩

/-- A chat was linked. -/
def chatLinked (parentId chatId : Int) : LogEvent :=
  ⟨.info, logTarget, "Chat linked to parent",
    [("parent_id", some (.number parentId)), ("chat_id", some (.number chatId))]⟩

/-- An admin did something. -/
def adminAction (adminId : Int) (action : String) (goal details : Option String) : LogEvent :=
  ⟨.warning, logTarget, "Admin action performed",
    [("admin_id", some (.number adminId)), ("action", some (.text action)),
      textField "target" goal, textField "details" details]⟩

/-- A listener failed. -/
def notificationFailure (listener : String) (registrationId : Int) (text : String) : LogEvent :=
  ⟨.warning, logTarget, "Promotion notification failed",
    [("listener", some (.text listener)), ("registration_id", some (.number registrationId)),
      ("error", some (.text text))]⟩

/-- A value in a line. -/
def valueText : LogValue → String
  | .text s => Text.quoted s
  | .number n => Numeral.ofInt n

/-- A character of a message. -/
def messageChar (c : Char) : List Char :=
  if c = '\x1b' then "\\x1b".toList
  else if c = '\x07' then "\\x07".toList
  else if c = '\x08' then "\\x08".toList
  else if c = '\x0c' then "\\x0c".toList
  else if c = '\x7f' then "\\x7f".toList
  else if 0x80 ≤ c.toNat && c.toNat ≤ 0x9F then Text.escapeNumber c
  else [c]

/-- A message in a line. -/
def messageText (message : String) : String :=
  .ofList (message.toList.flatMap messageChar)

/-- An event without its time and level. -/
def body (e : LogEvent) : String :=
  e.target ++ ": " ++ messageText e.message ++
    String.join (e.given.map fun (name, v) => " " ++ name ++ "=" ++ valueText v)

/-- An event without its time. -/
def untimed (e : LogEvent) : String :=
  e.level.name ++ " " ++ e.body

/-- A word at the right of a column five wide. -/
def column (word : String) : String :=
  .ofList (List.replicate (5 - word.length) ' ') ++ word

/-- An event as a line of the log. -/
def line (now : Instant) (e : LogEvent) : String :=
  now.stamp ++ " " ++ column e.level.name ++ " " ++ e.body

/-- A line without the carriage return at its end. -/
def dropReturn (s : List Char) : List Char :=
  if s.getLast? = some '\r' then s.dropLast else s

/-- The lines that an event takes. -/
def lines (now : Instant) (e : LogEvent) : List String :=
  (Text.parts (· = '\n') (e.line now).toList).map fun s => .ofList (dropReturn s)

end LogEvent

end EnrollmentDesk
