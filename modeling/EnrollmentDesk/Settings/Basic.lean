import EnrollmentDesk.Error

/-!
# Settings

What an operator sets for the desk: the chat bot and its admins, the database, the rules of
enrollment and the log. Every field has a value of its own until it is set.
-/

namespace EnrollmentDesk

/-- The chat bot. -/
structure BotSettings where
  token : String := ""
  adminIds : List Int := []
  /-- Where pictures of codes are served; no pictures are sent if it is absent. -/
  qrBase : Option String := none
deriving DecidableEq

/-- The database and the pool of connections to it. -/
structure DatabaseSettings where
  url : String := "postgresql://localhost/seatkeeper"
  maxConnections : Nat := 10
  minConnections : Nat := 1
  acquireSeconds : Nat := 30
  /-- When an idle connection is closed, if ever. -/
  idleSeconds : Option Nat := some 600
  /-- When a connection is replaced, if ever. -/
  lifetimeSeconds : Option Nat := some 1800
deriving DecidableEq

/-- The rules of enrollment. -/
structure EnrollmentSettings where
  /-- How far east of universal time the families live. -/
  offsetMinutes : Int := 420
  /-- The word that registration codes begin with. -/
  codeWord : String := "REG"
  codeAttempts : Nat := 20
  /-- How long a link code can be redeemed. -/
  linkCodeMinutes : Int := 10
deriving DecidableEq

/-- The log. -/
structure LogSettings where
  level : String := "info"
  directory : String := "logs"
  /-- The name of the file before the date. -/
  fileName : String := "seatkeeper.log"
deriving DecidableEq

/-- All settings. -/
structure Settings where
  bot : BotSettings := {}
  database : DatabaseSettings := {}
  enrollment : EnrollmentSettings := {}
  log : LogSettings := {}
deriving DecidableEq

namespace EnrollmentSettings

/-- How many random codes are tried: at least one. -/
def attempts (s : EnrollmentSettings) : Nat :=
  max s.codeAttempts 1

/-- The time zone of the families; universal time if the offset is a day or more. The offset in
seconds is a signed 32-bit number, and minutes that lead out of these have no zone. -/
def zone (s : EnrollmentSettings) : Except Error Offset :=
  let seconds := 60 * s.offsetMinutes
  if Range.signed32.contains seconds then .ok ((Offset.ofSeconds? seconds).getD .utc)
  else .error .outOfRange

end EnrollmentSettings

namespace Settings

/-- Whether a chat user is an admin. -/
def isAdmin (s : Settings) (user : Int) : Bool :=
  s.bot.adminIds.contains user

end Settings

end EnrollmentDesk
