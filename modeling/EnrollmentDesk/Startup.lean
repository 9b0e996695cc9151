import EnrollmentDesk.Database.Server
import EnrollmentDesk.Log.File
import EnrollmentDesk.Settings.Check
import EnrollmentDesk.Settings.Source

/-!
# Starting the desk

The desk starts in steps: it reads its variables and its settings, checks them, begins the log and
connects to the database. A step that fails ends the program with what it was about to do and why:
one reason for each error that another one wraps.

Where no database runs, the last step always fails.
-/

namespace EnrollmentDesk

/-- The name of the program. -/
def programName : String := "SeatKeeper"

/-- The version of the program. -/
def programVersion : String := "0.1.0"

/-- The name of the program with its version. -/
def programInfo : String :=
  programName ++ " v" ++ programVersion

/-- How a start failed. -/
structure Failure where
  /-- What was to be done. -/
  context : String
  /-- Why it could not, from the outside in. -/
  causes : List String
  /-- Where the log is kept and what it holds, if it was begun. -/
  log : Option (LogSettings × List LogEvent) := none

namespace Failure

/-- The exit code of a failed start. -/
def exitCode : Nat := 1

/-- What the program says first. -/
def headline (f : Failure) : String :=
  "Error: " ++ f.context

/-- A reason in lines: the first after its mark, the others below it. -/
def indent (mark margin : String) (cause : String) : List String :=
  match (Text.parts (· = '\n') cause.toList).map String.ofList with
  | [] => []
  | line :: rest => (mark ++ line) :: rest.map (margin ++ ·)

/-- Several reasons with their numbers. -/
def numbered : Nat → List String → List String
  | _, [] => []
  | n, cause :: rest =>
    let number := Numeral.ofNat n
    indent (.ofList (List.replicate (5 - number.length) ' ') ++ number ++ ": ") "       " cause ++
      numbered (n + 1) rest

/-- What the program says after the headline. -/
def explanation (f : Failure) : List String :=
  match f.causes with
  | [] => []
  | [cause] => "" :: "Caused by:" :: indent "    " "    " cause
  | causes => "" :: "Caused by:" :: numbered 0 causes

end Failure

namespace Startup

/-- The log of a start up to the database. -/
def events (s : LogSettings) : List LogEvent :=
  [.initialized s.level,
   ⟨.info, programName, "Starting " ++ programInfo ++ "...", []⟩,
   ⟨.info, programName, "Connecting to database...", []⟩]

/-- What is to be done first. What a file or a variable says wrong is worded by whoever reads it, so
the causes of this failure are for people only. -/
def loading : String := "Failed to load configuration"

/-- Starts where no database runs, with the variables of the environment, those of a file, and a
file of settings. -/
def run (env : Variables) (variableFile : Option String) (file : Option SettingsFile) : Failure :=
  let vars :=
    match variableFile with
    | some text => DotEnv.load env text
    | none => env
  match Settings.load file vars with
  | .error fault => { context := loading, causes := [fault.message] }
  | .ok s =>
    match s.check with
    | .error e => { context := "Invalid configuration", causes := [e.message] }
    | .ok () =>
      let fault := s.database.failure vars
      { context := "Failed to connect to database"
        causes := (Error.database fault).message :: fault.causes
        log := some (s.log, s.log.shown (events s.log)) }

end Startup

end EnrollmentDesk
