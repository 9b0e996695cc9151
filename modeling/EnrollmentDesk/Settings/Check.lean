import EnrollmentDesk.Settings.Basic
import EnrollmentDesk.Url.Reader

/-!
# Checking settings

Before the desk opens, its settings are checked: first the bot's, then the database's, the rules and
the log. The first fault found is the answer.
-/

namespace EnrollmentDesk

/-- The levels that may be set for the log. -/
def LogSettings.levels : List String :=
  ["trace", "debug", "info", "warn", "error"]

/-- A fault unless the condition holds. -/
def require (condition : Bool) (fault : SettingsFault) : Except Error Unit :=
  if condition then .ok () else .error (.settings fault)

/-- There is a token and an admin, and pictures have an address. -/
def BotSettings.check (s : BotSettings) : Except Error Unit := do
  require (s.token ≠ "") .noToken
  require (!s.adminIds.isEmpty) .noAdmin
  match s.qrBase with
  | none => pure ()
  | some base =>
    match Url.read base with
    | .ok _ => pure ()
    | .error e => throw (.settings (.badQrBase base e))

/-- There is an address, and a pool that can have connections. -/
def DatabaseSettings.check (s : DatabaseSettings) : Except Error Unit := do
  require (s.url ≠ "") .noDatabaseUrl
  require (s.maxConnections ≠ 0) .noConnections
  require (s.minConnections ≤ s.maxConnections) .moreIdleThanOpen

/-- The offset is less than a day, the code word has ASCII letters and digits, and codes can be made
and redeemed. The smallest 32-bit number has no absolute value to compare. -/
def EnrollmentSettings.check (s : EnrollmentSettings) : Except Error Unit := do
  if !Range.signed32.contains s.offsetMinutes.natAbs then throw .outOfRange
  require (s.offsetMinutes.natAbs < 1440) (.offsetOutOfRange s.offsetMinutes)
  require (s.codeWord ≠ "" && s.codeWord.toList.all Char.isAlphanum) .badCodePrefix
  require (s.codeAttempts ≠ 0) .noCodeAttempts
  require (0 < s.linkCodeMinutes) .noLinkCodeLifetime

/-- The level is one of the five. -/
def LogSettings.check (s : LogSettings) : Except Error Unit := do
  require (s.level ≠ "") .noLogLevel
  require (levels.contains s.level) (.badLogLevel s.level)

/-- Whether the desk can open with the settings. -/
def Settings.check (s : Settings) : Except Error Unit := do
  s.bot.check
  s.database.check
  s.enrollment.check
  s.log.check

end EnrollmentDesk
