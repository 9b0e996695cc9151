import EnrollmentDesk.Json.Field
import EnrollmentDesk.Settings.Basic

/-!
# Settings as data

Settings are written with all fields. Any field and any section may be left out of what is read, and
then has its own value.
-/

namespace EnrollmentDesk

open Json

namespace BotSettings

/-- The names of the fields, in order. -/
def fieldNames : List String :=
  ["token", "admin_ids", "qr_base_url"]

/-- Reads the settings of the bot. -/
def ofJson? (j : Json) : Option BotSettings := do
  let d : BotSettings := {}
  match ← j.fields? fieldNames true with
  | [token, adminIds, qrBase] =>
    return {
      token := ← orElse d.token asString? token
      adminIds := ← orElse d.adminIds (list? (inRange? .signed64)) adminIds
      qrBase := ← optional asString? qrBase }
  | _ => none

/-- The settings of the bot as data. -/
def toJson (s : BotSettings) : Json :=
  .obj <| fieldNames.zip [
    .str s.token,
    .arr (s.adminIds.map .int),
    ofOption .str s.qrBase]

end BotSettings

namespace DatabaseSettings

/-- The names of the fields, in order. -/
def fieldNames : List String :=
  ["url", "max_connections", "min_connections", "acquire_timeout_seconds", "idle_timeout_seconds",
   "max_lifetime_seconds"]

/-- A duration that is absent if it is `null`, and has a value to fall back on if it is left out. -/
def optionalSeconds (fallback : Option Nat) (field : Option Json) : Option (Option Nat) :=
  match field with
  | none => some fallback
  | some j => optional (natIn? .unsigned64) (some j)

/-- Reads the settings of the database. -/
def ofJson? (j : Json) : Option DatabaseSettings := do
  let d : DatabaseSettings := {}
  match ← j.fields? fieldNames true with
  | [url, maxConnections, minConnections, acquireSeconds, idleSeconds, lifetimeSeconds] =>
    return {
      url := ← orElse d.url asString? url
      maxConnections := ← orElse d.maxConnections (natIn? .unsigned32) maxConnections
      minConnections := ← orElse d.minConnections (natIn? .unsigned32) minConnections
      acquireSeconds := ← orElse d.acquireSeconds (natIn? .unsigned64) acquireSeconds
      idleSeconds := ← optionalSeconds d.idleSeconds idleSeconds
      lifetimeSeconds := ← optionalSeconds d.lifetimeSeconds lifetimeSeconds }
  | _ => none

/-- The settings of the database as data. -/
def toJson (s : DatabaseSettings) : Json :=
  .obj <| fieldNames.zip [
    .str s.url,
    .int s.maxConnections,
    .int s.minConnections,
    .int s.acquireSeconds,
    ofOption (fun n : Nat => .int n) s.idleSeconds,
    ofOption (fun n : Nat => .int n) s.lifetimeSeconds]

end DatabaseSettings

namespace EnrollmentSettings

/-- The names of the fields, in order. -/
def fieldNames : List String :=
  ["utc_offset_minutes", "code_prefix", "code_attempts", "link_code_ttl_minutes"]

/-- Reads the rules of enrollment. -/
def ofJson? (j : Json) : Option EnrollmentSettings := do
  let d : EnrollmentSettings := {}
  match ← j.fields? fieldNames true with
  | [offsetMinutes, codeWord, codeAttempts, linkCodeMinutes] =>
    return {
      offsetMinutes := ← orElse d.offsetMinutes (inRange? .signed32) offsetMinutes
      codeWord := ← orElse d.codeWord asString? codeWord
      codeAttempts := ← orElse d.codeAttempts (natIn? .unsigned32) codeAttempts
      linkCodeMinutes := ← orElse d.linkCodeMinutes (inRange? .signed64) linkCodeMinutes }
  | _ => none

/-- The rules of enrollment as data. -/
def toJson (s : EnrollmentSettings) : Json :=
  .obj <| fieldNames.zip [
    .int s.offsetMinutes,
    .str s.codeWord,
    .int s.codeAttempts,
    .int s.linkCodeMinutes]

end EnrollmentSettings

namespace LogSettings

/-- The names of the fields, in order. -/
def fieldNames : List String :=
  ["level", "directory", "file_prefix"]

/-- Reads the settings of the log. -/
def ofJson? (j : Json) : Option LogSettings := do
  let d : LogSettings := {}
  match ← j.fields? fieldNames true with
  | [level, directory, fileName] =>
    return {
      level := ← orElse d.level asString? level
      directory := ← orElse d.directory asString? directory
      fileName := ← orElse d.fileName asString? fileName }
  | _ => none

/-- The settings of the log as data. -/
def toJson (s : LogSettings) : Json :=
  .obj <| fieldNames.zip [.str s.level, .str s.directory, .str s.fileName]

end LogSettings

namespace Settings

/-- The names of the sections, in order. -/
def fieldNames : List String :=
  ["bot", "database", "enrollment", "logging"]

/-- Reads settings. -/
def ofJson? (j : Json) : Option Settings := do
  match ← j.fields? fieldNames true with
  | [bot, database, enrollment, log] =>
    return {
      bot := ← orElse {} BotSettings.ofJson? bot
      database := ← orElse {} DatabaseSettings.ofJson? database
      enrollment := ← orElse {} EnrollmentSettings.ofJson? enrollment
      log := ← orElse {} LogSettings.ofJson? log }
  | _ => none

/-- Settings as data. -/
def toJson (s : Settings) : Json :=
  .obj <| fieldNames.zip [
    s.bot.toJson,
    s.database.toJson,
    s.enrollment.toJson,
    s.log.toJson]

end Settings

end EnrollmentDesk
