import EnrollmentDesk.Toml.Scalar
import EnrollmentDesk.Toml.Token

/-!
# Reading TOML

A document is a table. A line sets a value in the table opened last, or opens a table: a key with
dots leads through tables that are made on the way. Nothing is said twice: no value is set again, no
table opened again, and a table written out in one place is not added to in another. Keys and values
of 80 levels are refused.

The reader takes one token at a time and keeps the lists and tables it is inside of on a stack.
-/

namespace EnrollmentDesk.Toml

/-- How a table came to be. -/
inductive Origin where
  /-- It was opened. -/
  | opened
  /-- It was on the way to one that was opened. -/
  | passed
  /-- It was on the way to a value. -/
  | dotted
deriving DecidableEq

/-- What a key stands for while the document is read. -/
inductive Node where
  | value (v : Setting)
  | table (origin : Origin) (entries : List (String × Node))
  /-- Tables opened under one key; lines go to the last. -/
  | tables (items : List (List (String × Node)))

/-- The entries of a table. -/
abbrev Entries := List (String × Node)

mutual

/-- What a key stands for when the document is complete. -/
def Node.toSetting : Node → Setting
  | .value v => v
  | .table _ es => .table (entriesToSettings es)
  | .tables items => .list (itemsToSettings items)

/-- The values of all entries. -/
def entriesToSettings : List (String × Node) → List (String × Setting)
  | [] => []
  | (name, n) :: rest => (name, n.toSetting) :: entriesToSettings rest

/-- The values of all tables. -/
def itemsToSettings : List (List (String × Node)) → List Setting
  | [] => []
  | es :: rest => .table (entriesToSettings es) :: itemsToSettings rest

end

namespace Entries

open Setting (find? setEntry)

/-- Sets a value under a key; `none` if there is one, or a table on the way may not be added to. A
table that was not on the way to a value takes no value of its own from a line elsewhere, but may be
on the way to one. -/
def put (v : Setting) (takes : Bool) : List String → Entries → Option Entries
  | [], _ => none
  | [k], es => if takes && (find? es k).isNone then some (setEntry k (.value v) es) else none
  | k :: rest, es =>
    match find? es k with
    | none => (put v true rest []).map fun sub => setEntry k (.table .dotted sub) es
    | some (.table origin sub) =>
      if origin = .opened then none
      else (put v (origin = .dotted) rest sub).map fun sub => setEntry k (.table origin sub) es
    | some (.tables items) =>
      (put v false rest (items.getLast?.getD [])).map fun sub =>
        setEntry k (.tables (items.dropLast ++ [sub])) es
    | some (.value _) => none

/-- Changes the entries of the table at a key, made on the way if it is not there. -/
def enter (change : Option Node → Option Node) : List String → Entries → Option Entries
  | [], _ => none
  | [k], es => (change (find? es k)).map fun n => setEntry k n es
  | k :: rest, es =>
    match find? es k with
    | none => (enter change rest []).map fun sub => setEntry k (.table .passed sub) es
    | some (.table origin sub) =>
      (enter change rest sub).map fun sub => setEntry k (.table origin sub) es
    | some (.tables items) =>
      (enter change rest (items.getLast?.getD [])).map fun sub =>
        setEntry k (.tables (items.dropLast ++ [sub])) es
    | some (.value _) => none

/-- Opens a table, unless there is something else or it was opened before. -/
def openTable : Option Node → Option Node
  | none => some (.table .opened [])
  | some (.table .passed es) => some (.table .opened es)
  | some _ => none

/-- Opens one more table under a key. -/
def openNext : Option Node → Option Node
  | none => some (.tables [[]])
  | some (.tables items) => some (.tables (items ++ [[]]))
  | some _ => none

/-- Sets a value in a table that is open. -/
def putInside (key : List String) (v : Setting) : Option Node → Option Node
  | some (.table origin es) => (put v true key es).map (.table origin)
  | some (.tables items) =>
    (put v true key (items.getLast?.getD [])).map fun es => .tables (items.dropLast ++ [es])
  | _ => none

/-- Sets a value under a key in the table opened at a path. -/
def putAt (path key : List String) (v : Setting) (es : Entries) : Option Entries :=
  if path.isEmpty then put v true key es else enter (putInside key v) path es

end Entries

/-! ### Keys -/

/-- A character of a key without quotes. -/
def isKeyChar (c : Char) : Bool :=
  c.isAlphanum || c = '_' || c = '-'

/-- The names and dots of a word in a key; a dot is `none`. -/
def namesAndDots (w : List Char) : List (Option (List Char)) :=
  ((Text.parts (· = '.') w).map fun name => if name.isEmpty then [] else [some name]).intersperse
    [none] |>.flatten

/-- The names and dots of a token in a key. -/
def keyParts : Token → Option (List (Option String))
  | .word w =>
    if w.all fun c => isKeyChar c || c = '.' then
      some ((namesAndDots w).map fun n => n.map String.ofList)
    else none
  | .str s false => some [some s]
  | _ => none

/-- Names with a dot between each two. -/
def alternate : List (Option String) → Option (List String)
  | [some name] => some [name]
  | some name :: none :: rest => (alternate rest).map (name :: ·)
  | _ => none

/-- What the names of a key, and the lists and tables that a value is inside of, stay below in
number. -/
def depthBound : Nat := 80

/-- The key that tokens make. -/
def readKey (tokens : List Token) : Option (List String) := do
  (alternate (← tokens.mapM keyParts).flatten).filter fun key => key.length < depthBound

/-! ### The machine -/

/-- A list or a table written out, as far as it has been read. -/
inductive Frame where
  /-- Items in reverse. -/
  | list (items : List Setting)
  | table (entries : Entries) (key : List String)

/-- What may come next; tokens of a key are in reverse. -/
inductive Expect where
  | line
  | key (tokens : List Token)
  | header (next : Bool) (tokens : List Token)
  /-- The second bracket after the key of one more table. -/
  | bracket (tokens : List Token)
  | value
  | more
  /-- A key in a table written out; its end too if it is still empty. -/
  | name (first : Bool) (tokens : List Token)
  | lineEnd

/-- The machine. -/
structure Machine where
  expect : Expect
  root : Entries
  /-- The table opened last. -/
  path : List String
  /-- The key of the line. -/
  key : List String
  stack : List Frame

namespace Machine

/-- A complete value goes into the innermost list or table, or into the document. -/
def place (m : Machine) (v : Setting) : Option Machine :=
  match m.stack with
  | [] => (m.root.putAt m.path m.key v).map fun root => { m with root, expect := .lineEnd }
  | .list items :: stack => some { m with stack := .list (v :: items) :: stack, expect := .more }
  | .table es key :: stack =>
    (es.put v true key).map fun es => { m with stack := .table es [] :: stack, expect := .more }

/-- The innermost list ends. -/
def closeList (m : Machine) : Option Machine :=
  match m.stack with
  | .list items :: stack => { m with stack }.place (.list items.reverse)
  | _ => none

/-- The innermost table ends. -/
def closeTable (m : Machine) : Option Machine :=
  match m.stack with
  | .table es _ :: stack => { m with stack }.place (.table (entriesToSettings es))
  | _ => none

/-- Whether the innermost is a list, in which lines may break. -/
def inList (m : Machine) : Bool :=
  match m.stack with
  | .list _ :: _ => true
  | _ => false

/-- A table is opened. -/
def openAt (m : Machine) (next : Bool) (tokens : List Token) : Option Machine := do
  let path ← readKey tokens.reverse
  let root ← m.root.enter (if next then Entries.openNext else Entries.openTable) path
  return { m with root, path, expect := .lineEnd }

/-- A list or a table begins. -/
def begin (m : Machine) (frame : Frame) (expect : Expect) : Option Machine :=
  if m.stack.length + 1 < depthBound then some { m with stack := frame :: m.stack, expect }
  else none

/-- A value, or the start or the end of one. -/
def stepValue (m : Machine) : Token → Option Machine
  | .word w => (readScalar w).bind m.place
  | .str s _ => m.place (.text s)
  | .mark '[' _ => m.begin (.list []) .value
  | .mark '\x7b' _ => m.begin (.table [] []) (.name true [])
  | .mark ']' _ => m.closeList
  | .newline => if m.inList then some m else none
  | _ => none

/-- What follows a value in a list or a table. -/
def stepMore (m : Machine) : Token → Option Machine
  | .mark ',' _ => some { m with expect := if m.inList then .value else .name false [] }
  | .mark ']' _ => m.closeList
  | .mark '\x7d' _ => m.closeTable
  | .newline => if m.inList then some m else none
  | _ => none

/-- A key in a table written out. -/
def stepName (m : Machine) (first : Bool) (tokens : List Token) : Token → Option Machine
  | .mark '=' _ => do
    let key ← readKey tokens.reverse
    match m.stack with
    | .table es _ :: stack => some { m with stack := .table es key :: stack, expect := .value }
    | _ => none
  | .mark '\x7d' _ => if first && tokens.isEmpty then m.closeTable else none
  | .word w => some { m with expect := .name first (.word w :: tokens) }
  | .str s long => some { m with expect := .name first (.str s long :: tokens) }
  | _ => none

/-- One token. -/
def step (m : Machine) (t : Token) : Option Machine :=
  match m.expect, t with
  | .line, .newline => some m
  | .line, .mark '[' _ => some { m with expect := .header false [] }
  | .line, .word w => some { m with expect := .key [.word w] }
  | .line, .str s long => some { m with expect := .key [.str s long] }
  | .line, _ => none
  | .key tokens, .mark '=' _ =>
    (readKey tokens.reverse).map fun key => { m with key, expect := .value }
  | .key tokens, .word w => some { m with expect := .key (.word w :: tokens) }
  | .key tokens, .str s long => some { m with expect := .key (.str s long :: tokens) }
  | .key _, _ => none
  | .header false [], .mark '[' true => some { m with expect := .header true [] }
  | .header false tokens, .mark ']' _ => m.openAt false tokens
  | .header true tokens, .mark ']' _ => some { m with expect := .bracket tokens }
  | .header next tokens, .word w => some { m with expect := .header next (.word w :: tokens) }
  | .header next tokens, .str s long =>
    some { m with expect := .header next (.str s long :: tokens) }
  | .header _ _, _ => none
  | .bracket tokens, .mark ']' true => m.openAt true tokens
  | .bracket _, _ => none
  | .value, t => m.stepValue t
  | .more, t => m.stepMore t
  | .name first tokens, t => m.stepName first tokens t
  | .lineEnd, .newline => some { m with expect := .line }
  | .lineEnd, _ => none

end Machine

/-- Reads a document. -/
def read? (s : String) : Option (List (String × Setting)) := do
  let tokens ← Lexer.tokens? s.toList
  let final ← tokens.foldlM Machine.step ⟨.line, [], [], [], []⟩
  match final.expect with
  | .line => some (entriesToSettings final.root)
  | _ => none

end EnrollmentDesk.Toml
