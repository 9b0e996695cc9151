import EnrollmentDesk.Startup

/-!
# The program

Starts the desk in the current directory, with the files of settings and variables it finds there.
It says on the error stream how the start failed, and leaves the log behind.
-/

namespace EnrollmentDesk.Program

/-- The variables that may be set: one for each field of each section, and those of the server. -/
def variableNames : List String :=
  let sections :=
    [("bot", BotSettings.fieldNames), ("database", DatabaseSettings.fieldNames),
      ("enrollment", EnrollmentSettings.fieldNames), ("logging", LogSettings.fieldNames)]
  Server.variableNames ++ sections.flatMap fun (name, fields) =>
    fields.map fun field => "SEATKEEPER__" ++ name.toUpper ++ "__" ++ field.toUpper

/-- The text of a file, if it is there. -/
def readIfThere (name : String) : IO (Option String) := do
  try
    return some (← IO.FS.readFile ((← IO.currentDir) / name))
  catch _ => return none

/-- The file of settings, if there is one. -/
def settingsFile : IO (Option SettingsFile) := do
  return SettingsFile.ofTexts? (← readIfThere "config.toml") (← readIfThere "config.json")

/-- The variables that are set. -/
def environment : IO Variables := do
  let mut found : Variables := []
  for name in variableNames do
    if let some value ← IO.getEnv name then
      found := found ++ [(name, value)]
  return found

/-- The time at which a new file is written. -/
def currentTime : IO Instant := do
  let (handle, path) ← IO.FS.createTempFile
  handle.flush
  let time := (← path.metadata).modified
  IO.FS.removeFile path
  return .ofSecond time.sec time.nsec.toNat

/-- Writes the log. -/
def writeLog (s : LogSettings) (events : List LogEvent) : IO Unit := do
  let now ← currentTime
  let path := (← IO.currentDir) / s.pathAt now
  if let some directory := path.parent then IO.FS.createDirAll directory
  let handle ← IO.FS.Handle.mk path .append
  for event in events do
    handle.putStrLn (event.line now)
    IO.println (event.line now)

end EnrollmentDesk.Program

open EnrollmentDesk Program in
/-- Starts the desk. -/
def main : IO UInt32 := do
  let failure := Startup.run (← environment) (← readIfThere ".env") (← settingsFile)
  if let some (s, events) := failure.log then writeLog s events
  for line in failure.headline :: failure.explanation do
    IO.eprintln line
  return Failure.exitCode.toUInt32
