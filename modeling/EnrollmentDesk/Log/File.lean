import EnrollmentDesk.Log.Filter
import EnrollmentDesk.Settings.Basic

/-!
# The file of the log

The log goes to one file a day, by the day of universal time, in the directory that is set. That
directory is taken from the current one unless it is given in full.
-/

namespace EnrollmentDesk.LogSettings

open Text

/-- Whether a path is given in full. -/
def isFull (path : List Char) : Bool :=
  path.head? = some '/'

/-- The steps of a path after some steps in reverse. Some lead nowhere, and two dots lead back. None
if they lead out of where the path begins. -/
def walk : List (List Char) → List (List Char) → Option (List (List Char))
  | before, [] => some before.reverse
  | before, step :: rest =>
    if step.isEmpty || step = ['.'] then walk before rest
    else if step = ['.', '.'] then
      match before with
      | [] => none
      | _ :: before => walk before rest
    else walk (step :: before) rest

/-- A path as its shortest name below the current directory, if it stays there. -/
def below? (path : List Char) : Option (List Char) :=
  if isFull path then none
  else (walk [] (parts (· = '/') path)).map (['/'].intercalate ·)

/-- The path of the file with a text for its day. -/
def path (s : LogSettings) (day : String) : List Char :=
  let name := (if s.fileName = "" then day else s.fileName ++ "." ++ day).toList
  if s.directory = "" || isFull name then name else s.directory.toList ++ '/' :: name

/-- The path of the file of the day. -/
def pathAt (s : LogSettings) (now : Instant) : String :=
  .ofList (s.path (now.localDay .utc).iso)

/-- The file of the day, if it is kept below the current directory. -/
def file? (s : LogSettings) (now : Instant) : Option String :=
  (below? (s.path (now.localDay .utc).iso)).map .ofList

/-- The mark that stands for the day in the name of a file without its date. -/
def anyDay : String := "*"

/-- The file without its date and the dot before it, if it is kept below the current directory. -/
def undatedFile? (s : LogSettings) : Option String :=
  (below? (s.path anyDay)).map fun name => .ofList (name.take (name.length - anyDay.length - 1))

/-- The events that are shown. -/
def shown (s : LogSettings) (events : List LogEvent) : List LogEvent :=
  events.filter (LogFilter.shows (LogFilter.read s.level))

end EnrollmentDesk.LogSettings
