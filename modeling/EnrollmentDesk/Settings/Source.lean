import EnrollmentDesk.Json.Reader
import EnrollmentDesk.Settings.DotEnv
import EnrollmentDesk.Settings.Form
import EnrollmentDesk.Toml.Reader

/-!
# Where settings come from

Settings are read from a file, in TOML or JSON, and then from the environment, which overrides the
file value by value. A variable counts if its name begins with `SEATKEEPER__`, in any case; two
underscores stand between the section and the field. Its value is a boolean, a number, a list of
admins, or a text, whichever is the first that it can be.
-/

namespace EnrollmentDesk

/-- A file of settings. -/
inductive SettingsFile where
  | toml (text : String)
  | json (text : String)

/-- The file that counts of the two that may be there. -/
def SettingsFile.ofTexts? (toml json : Option String) : Option SettingsFile :=
  toml.map .toml <|> json.map .json

namespace SettingsSource

/-! ### The environment -/

/-- What the names of variables that count begin with, in lower case. -/
def variableMark : List Char := "seatkeeper__".toList

/-- A name with a dot for each two underscores. -/
def dotted : List Char → List Char
  | '_' :: '_' :: s => '.' :: dotted s
  | c :: s => c :: dotted s
  | [] => []

/-- The path a variable sets, if it counts. -/
def path? (name : String) : Option String :=
  let name := (Setting.lowerName name).toList
  if variableMark.isPrefixOf name then some (.ofList (dotted (name.drop variableMark.length)))
  else none

/-- The only field that is a list. -/
def listPath : String := "bot.admin_ids"

/-- The value of a variable. -/
def valueOf (path value : String) : Setting :=
  let cs := value.toList
  let word := cs.map Char.toLower
  if word = "true".toList then .bool true
  else if word = "false".toList then .bool false
  else
    match Numeral.readInt .signed64 cs, Binary64.read? cs with
    | some n, _ => .int n
    | none, some x => .real x
    | none, none =>
      if path = listPath then
        .list ((Text.parts (· = ',') cs).map fun item => .text (.ofList item))
      else .text value

/-- What the environment sets. Of two variables for one path the later counts. -/
def ofVariables (vars : Variables) : List (String × Setting) :=
  vars.foldl
    (fun entries (name, value) =>
      match path? name with
      | some path => Setting.setEntry path (valueOf path value) entries
      | none => entries)
    []

/-! ### Files -/

/-- A number from a JSON file; one beyond all binary numbers is refused. -/
def ofReal (d : Decimal) : Option Setting :=
  match Binary64.nearDecimal d with
  | .infinite _ => none
  | x => some (.real x)

mutual

/-- A value from a JSON file. -/
def ofJson : Json → Option Setting
  | .null => some .nothing
  | .bool b => some (.bool b)
  | .int n =>
    if Range.signed64.contains n then some (.int n)
    else ofReal ⟨decide (n < 0), n.natAbs, 0⟩
  | .real d => ofReal d
  | .str s => some (.text s)
  | .arr items => (ofItems items).map .list
  | .obj members => (ofMembers [] members).map .table

/-- The items of a list. -/
def ofItems : List Json → Option (List Setting)
  | [] => some []
  | j :: rest => do
    let v ← ofJson j
    let vs ← ofItems rest
    return v :: vs

/-- The members of an object, after those before them. Of two with one name the later counts. -/
def ofMembers (before : List (String × Setting)) :
    List (String × Json) → Option (List (String × Setting))
  | [] => some before
  | (name, j) :: rest => do
    let v ← ofJson j
    ofMembers (Setting.setEntry name v before) rest

end

/-- A text in TOML without the mark of its byte order, which may stand in front. -/
def withoutOrderMark (text : String) : String :=
  match text.toList with
  | '\ufeff' :: s => .ofList s
  | _ => text

/-- What a file sets. -/
def ofFile : SettingsFile → Option (List (String × Setting))
  | .toml text => Toml.read? (withoutOrderMark text)
  | .json text =>
    match Json.read? text with
    | some (.obj members) => ofMembers [] members
    | _ => none

end SettingsSource

/-! ### Fields -/

open Setting

/-- Takes the settings of the bot. -/
def BotSettings.ofSetting? (v : Setting) : Option BotSettings := do
  let d : BotSettings := {}
  match ← v.fields? fieldNames with
  | [token, adminIds, qrBase] =>
    return {
      token := ← orElse d.token asText? token
      adminIds := ← orElse d.adminIds (asList? (asInt? .signed64)) adminIds
      qrBase := ← orElse d.qrBase (asOption? asText?) qrBase }
  | _ => none

/-- Takes the settings of the database. -/
def DatabaseSettings.ofSetting? (v : Setting) : Option DatabaseSettings := do
  let d : DatabaseSettings := {}
  match ← v.fields? fieldNames with
  | [url, maxConnections, minConnections, acquireSeconds, idleSeconds, lifetimeSeconds] =>
    return {
      url := ← orElse d.url asText? url
      maxConnections := ← orElse d.maxConnections asNat32? maxConnections
      minConnections := ← orElse d.minConnections asNat32? minConnections
      acquireSeconds := ← orElse d.acquireSeconds asNat? acquireSeconds
      idleSeconds := ← orElse d.idleSeconds (asOption? asNat?) idleSeconds
      lifetimeSeconds := ← orElse d.lifetimeSeconds (asOption? asNat?) lifetimeSeconds }
  | _ => none

/-- Takes the rules of enrollment. -/
def EnrollmentSettings.ofSetting? (v : Setting) : Option EnrollmentSettings := do
  let d : EnrollmentSettings := {}
  match ← v.fields? fieldNames with
  | [offsetMinutes, codeWord, codeAttempts, linkCodeMinutes] =>
    return {
      offsetMinutes := ← orElse d.offsetMinutes asInt32? offsetMinutes
      codeWord := ← orElse d.codeWord asText? codeWord
      codeAttempts := ← orElse d.codeAttempts asNat32? codeAttempts
      linkCodeMinutes := ← orElse d.linkCodeMinutes (asInt? .signed64) linkCodeMinutes }
  | _ => none

/-- Takes the settings of the log. -/
def LogSettings.ofSetting? (v : Setting) : Option LogSettings := do
  let d : LogSettings := {}
  match ← v.fields? fieldNames with
  | [level, directory, fileName] =>
    return {
      level := ← orElse d.level asText? level
      directory := ← orElse d.directory asText? directory
      fileName := ← orElse d.fileName asText? fileName }
  | _ => none

namespace Settings

/-- Takes settings. -/
def ofSetting? (v : Setting) : Option Settings := do
  match ← v.fields? fieldNames with
  | [bot, database, enrollment, log] =>
    return {
      bot := ← orElse {} BotSettings.ofSetting? bot
      database := ← orElse {} DatabaseSettings.ofSetting? database
      enrollment := ← orElse {} EnrollmentSettings.ofSetting? enrollment
      log := ← orElse {} LogSettings.ofSetting? log }
  | _ => none

/-- Reads settings from a file, if there is one, and the environment. -/
def load (file : Option SettingsFile) (vars : Variables) : Except SourceFault Settings :=
  let fromFile :=
    match file with
    | none => some []
    | some f => SettingsSource.ofFile f
  match fromFile with
  | none => .error (.other "the file cannot be read")
  | some entries =>
    let tree := putAll (SettingsSource.ofVariables vars) (putAll entries (.table []))
    match ofSetting? tree with
    | some s => .ok s
    | none => .error (.other "a field has a value of the wrong kind")

end Settings

end EnrollmentDesk
