import EnrollmentDesk.Text.Blank
import EnrollmentDesk.Text.Letter

/-!
# Files of variables

A file of variables has one on each line, `NAME=value`, perhaps after the word `export`. A value may
be quoted, in parts or as a whole: between single quotes every character stands for itself,
elsewhere a backslash takes the meaning from the next, and a dollar sign and a name stand for the
value of another variable. A comment follows a blank.

The environment wins: a variable that it has is not changed. Reading stops at the first line that is
wrong, and keeps what came before.
-/

namespace EnrollmentDesk

/-- The variables of the environment, each once. -/
abbrev Variables := List (String × String)

namespace DotEnv

open Text

/-- The value of a variable. -/
def lookup (vars : Variables) (name : String) : Option String :=
  (vars.find? fun v => v.1 == name).map Prod.snd

/-- What the values of a file may name: the environment, and earlier lines of the file. -/
structure Scope where
  env : Variables
  /-- The latest first. -/
  lines : Variables

/-- What a name stands for; nothing if it is unknown. -/
def Scope.value (s : Scope) (name : List Char) : List Char :=
  let name := String.ofList name
  match lookup s.env name, lookup s.lines name with
  | some v, _ => v.toList
  | none, some v => v.toList
  | none, none => []

/-- Where the reader of a value stands. -/
inductive Place where
  | plain
  | single
  | double
  /-- After a backslash, between double quotes or not. -/
  | escaped (quoted : Bool)
  /-- After a dollar sign: in a name, which ends at the first other character. -/
  | name (quoted : Bool) (read : List Char)
  /-- In a name between braces. -/
  | braced (quoted : Bool) (read : List Char)
  /-- After the blank that ends a value. -/
  | trailing
  | comment

/-- Where the reader stands again after a name or an escape. -/
def resume (quoted : Bool) : Place :=
  if quoted then .double else .plain

/-- A character outside names and escapes, after what was read so far, in reverse. -/
def plainStep (quoted : Bool) (out : List Char) (c : Char) : Place × List Char :=
  if c = '$' then (.name quoted [], out)
  else if c = '\\' then (.escaped quoted, out)
  else if quoted then (if c = '\x22' then (.plain, out) else (.double, c :: out))
  else if c = '\x27' then (.single, out)
  else if c = '\x22' then (.double, out)
  else if c = ' ' || c = '\t' then (.trailing, out)
  else (.plain, c :: out)

/-- One character of a value; what was read so far is in reverse. -/
def step (s : Scope) (state : Place × List Char) (c : Char) : Option (Place × List Char) :=
  let (place, out) := state
  match place with
  | .plain => some (plainStep false out c)
  | .double => some (plainStep true out c)
  | .single => some (if c = '\x27' then (.plain, out) else (.single, c :: out))
  | .escaped quoted =>
    if ['\\', '\x27', '\x22', '$', ' '].contains c then some (resume quoted, c :: out)
    else if c = 'n' then some (resume quoted, '\n' :: out)
    else none
  | .name quoted read =>
    if isLetterOrNumber c then some (.name quoted (c :: read), out)
    else if c = '\x7b' && read.isEmpty then some (.braced quoted [], out)
    else
      let out := (s.value read.reverse).reverse ++ out
      if c = '$' then some (.name quoted [], out) else some (resume quoted, c :: out)
  | .braced quoted read =>
    if c = '\x7d' then some (resume quoted, (s.value read.reverse).reverse ++ out)
    else some (.braced quoted (c :: read), out)
  | .trailing =>
    if c = ' ' || c = '\t' then some (.trailing, out)
    else if c = '#' then some (.comment, out)
    else none
  | .comment => some (.comment, out)

/-- Reads a value. -/
def readValue (s : Scope) (text : List Char) : Option (List Char) :=
  match text.foldlM (step s) (.plain, []) with
  | some (.plain, out) => some out.reverse
  | some (.trailing, out) => some out.reverse
  | some (.comment, out) => some out.reverse
  | some (.escaped false, out) => some out.reverse
  | some (.name false read, out) => some (out.reverse ++ s.value read.reverse)
  | _ => none

/-- A character of a name. -/
def isNameChar (c : Char) : Bool :=
  c.isAlphanum || c = '_' || c = '.'

/-- The text without blanks in front. -/
def skipBlanks (text : List Char) : List Char :=
  text.dropWhile isBlank

/-- Reads a name, which begins with a letter, and the blanks after it. -/
def readName (text : List Char) : Option (List Char × List Char) :=
  match text with
  | c :: _ =>
    if c.isAlpha || c = '_' then
      some (text.takeWhile isNameChar, skipBlanks (text.dropWhile isNameChar))
    else none
  | [] => none

/-- The text after an equals sign. -/
def afterEquals : List Char → Option (List Char)
  | '=' :: rest => some rest
  | _ => none

/-- Reads the name of a line and the text after its equals sign. The word before the name is no name
itself, unless an equals sign follows it. -/
def readHead (text : List Char) : Option (List Char × List Char) := do
  let (name, rest) ← readName text
  if name = "export".toList && (afterEquals rest).isNone then
    let (name, rest) ← readName rest
    return (name, ← afterEquals rest)
  else return (name, ← afterEquals rest)

/-- Whether nothing follows but perhaps a comment. -/
def isVoid (text : List Char) : Bool :=
  text.isEmpty || text.head? = some '#'

/-- What a line says. -/
inductive Line where
  | nothing
  | sets (name value : String)

/-- Reads a line. -/
def readLine (s : Scope) (text : List Char) : Option Line := do
  let text := trimChars text
  if isVoid text then return .nothing
  let (name, rest) ← readHead text
  let rest := skipBlanks rest
  let value ← if isVoid rest then some [] else readValue s rest
  return .sets (.ofList name) (.ofList value)

/-- The environment after the lines of a file. -/
def readLines : Scope → List (List Char) → Variables
  | s, [] => s.env
  | s, text :: rest =>
    match readLine s text with
    | none => s.env
    | some .nothing => readLines s rest
    | some (.sets name value) =>
      let lines := (name, value) :: s.lines
      if (lookup s.env name).isSome then readLines { s with lines } rest
      else readLines ⟨s.env ++ [(name, value)], lines⟩ rest

/-- The lines of a text, without their ends. -/
def splitLines : List Char → List (List Char)
  | [] => []
  | '\n' :: s => [] :: splitLines s
  | '\r' :: '\n' :: s => [] :: splitLines s
  | c :: s =>
    match splitLines s with
    | [] => [[c]]
    | line :: lines => (c :: line) :: lines

/-- The environment after a file. -/
def load (env : Variables) (file : String) : Variables :=
  readLines ⟨env, []⟩ (splitLines file.toList)

end DotEnv

end EnrollmentDesk
