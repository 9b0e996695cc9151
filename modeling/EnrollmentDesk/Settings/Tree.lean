import EnrollmentDesk.Number.Binary64
import EnrollmentDesk.Text.Parts

/-!
# Trees of settings

Settings come from several sources, which do not know what the fields mean: each gives values under
names, and later sources override earlier ones value by value. Names do not depend on case. A field
then takes what it can use: a text field takes a number as its text, a number field a text that is
one, and a list or a section takes nothing else.
-/

namespace EnrollmentDesk

/-- A value from a source. -/
inductive Setting where
  | nothing
  | bool (b : Bool)
  | int (n : Int)
  | real (x : Binary64)
  | text (s : String)
  | list (items : List Setting)
  | table (entries : List (String × Setting))

namespace Setting

/-- A character in lower case, among those whose lower case is ASCII: the capital letters and the
sign for kelvin. -/
def lowerChar (c : Char) : Char :=
  if c = '\u212A' then 'k' else c.toLower

/-- A name in lower case. No name that is asked for has characters outside ASCII, so others may stay
as they are. -/
def lowerName (name : String) : String :=
  .ofList (name.toList.map lowerChar)

/-- The entry of a name. -/
def find? {α : Type} (entries : List (String × α)) (name : String) : Option α :=
  (entries.find? fun e => e.1 == name).map Prod.snd

/-- The entries with one replaced or added. -/
def setEntry {α : Type} (name : String) (v : α) : List (String × α) → List (String × α)
  | [] => [(name, v)]
  | (n, w) :: rest => if n == name then (n, v) :: rest else (n, w) :: setEntry name v rest

/-- The entries of a table; anything else has none. -/
def entries : Setting → List (String × Setting)
  | table es => es
  | _ => []

/-- The items of a list; anything else has none. -/
def items : Setting → List Setting
  | list vs => vs
  | _ => []

mutual

/-- A value over the one that was there: the entries of a table one by one. -/
def cover : Setting → Option Setting → Setting
  | table es, old => coverEntries es (old.getD (table []))
  | v, _ => v

/-- Entries over what was there. -/
def coverEntries : List (String × Setting) → Setting → Setting
  | [], old => old
  | (name, v) :: rest, old =>
    let name := lowerName name
    coverEntries rest (table (setEntry name (cover v (find? old.entries name)) old.entries))

end

/-- A step from a value to a part of it. -/
inductive Step where
  | entry (name : String)
  /-- An item; a negative number counts from the end. -/
  | item (index : Int)

/-- The items with one replaced, after as many empty ones as it takes. -/
def setItem (vs : List Setting) (i : Nat) (v : Setting) : List Setting :=
  (vs ++ List.replicate (i + 1 - vs.length) nothing).set i v

/-- Sets the part that the steps lead to. What is on the way and has no such part is replaced. -/
def put (v : Setting) : List Step → Setting → Setting
  | [], old => cover v (some old)
  | [.entry name], old =>
    let name := lowerName name
    table (setEntry name (cover v (find? old.entries name)) old.entries)
  | .entry name :: rest, old =>
    let name := lowerName name
    table (setEntry name (put v rest ((find? old.entries name).getD nothing)) old.entries)
  | .item index :: rest, old =>
    let vs := old.items
    let i := if index < 0 then vs.length - index.natAbs else index.natAbs
    let part := match rest with
      | [] => v
      | _ => put v rest (vs.getD i nothing)
    list (setItem vs i part)

/-! ### Names that are paths -/

/-- A character of a name in a path. -/
def isNameChar (c : Char) : Bool :=
  c.isAlphanum || c = ' ' || c = '_' || c = '-'

/-- The name at the start of a text, if there is one, and the rest. -/
def readName (s : List Char) : Option (String × List Char) :=
  let name := s.takeWhile isNameChar
  if name.isEmpty then none else some (.ofList name, s.drop name.length)

/-- An index between brackets, with blanks around it. -/
def readIndex (s : List Char) : Option Int :=
  let blank := fun c => c = ' ' || c = '\t'
  match ((s.dropWhile blank).reverse.dropWhile blank).reverse with
  | '+' :: _ => none
  | ds => Numeral.readInt .signed64 ds

/-- The steps of a part between two dots: a name with any number of indices. -/
def readPart (part : List Char) : Option (List Step) := do
  let (name, rest) ← readName part
  if rest.isEmpty then return [.entry name]
  else
    match Text.parts (· = '[') rest with
    | [] :: indices =>
      let steps ← indices.mapM fun s =>
        match s.getLast? with
        | some ']' => (readIndex s.dropLast).map Step.item
        | _ => none
      return .entry name :: steps
    | _ => none

/-- The steps of a name with dots and indices; a name that is no path is one step. -/
def readPath (name : String) : List Step :=
  match (Text.parts (· = '.') name.toList).mapM readPart with
  | some steps => steps.flatten
  | none => [.entry name]

/-- Sets all entries of a source over what was there. -/
def putAll (entries : List (String × Setting)) (old : Setting) : Setting :=
  entries.foldl (fun tree (name, v) => put v (readPath name) tree) old

/-! ### What a field takes -/

/-- The text of a value. -/
def asText? : Setting → Option String
  | text s => some s
  | bool b => some (if b then "true" else "false")
  | int n => some (Numeral.ofInt n)
  | real x => some x.write
  | _ => none

/-- The number that a text says, in words or digits. -/
def numberOfText? (r : Range) (s : String) : Option Int :=
  let word := lowerName s
  if ["true", "on", "yes"].contains word then some 1
  else if ["false", "off", "no"].contains word then some 0
  else if r.lo < 0 then Numeral.readInt r s.toList
  else Numeral.readUnsigned r s.toList

/-- The number of a value, in a range of 64 bits. -/
def asInt? (r : Range) : Setting → Option Int
  | int n => if r.contains n then some n else none
  | bool b => some (if b then 1 else 0)
  | real x => some (x.toInt r)
  | text s => numberOfText? r s
  | _ => none

/-- A signed number of 32 bits. -/
def asInt32? (v : Setting) : Option Int :=
  (v.asInt? .signed64).filter Range.signed32.contains

/-- A number that is not negative. -/
def asNat? (v : Setting) : Option Nat :=
  (v.asInt? .unsigned64).map Int.toNat

/-- A number of 32 bits that is not negative. -/
def asNat32? (v : Setting) : Option Nat :=
  v.asNat?.filter fun n => Range.unsigned32.contains n

/-- A list of which every item is taken. -/
def asList? {α : Type} (read : Setting → Option α) : Setting → Option (List α)
  | list vs => vs.mapM read
  | _ => none

/-- A value that may be absent. -/
def asOption? {α : Type} (read : Setting → Option α) : Setting → Option (Option α)
  | nothing => some none
  | v => (read v).map some

/-- The fields of a section by their names, or in order if it is a list. -/
def fields? (names : List String) : Setting → Option (List (Option Setting))
  | table es => some (names.map (find? es))
  | list vs => some ((vs.map some ++ names.map fun _ => none).take names.length)
  | _ => none

/-- What a field takes, or its own value if it is not set. -/
def orElse {α : Type} (fallback : α) (read : Setting → Option α) : Option Setting → Option α
  | none => some fallback
  | some v => read v

end Setting

end EnrollmentDesk
