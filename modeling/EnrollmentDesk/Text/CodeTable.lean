import EnrollmentDesk.Text.Blank
import EnrollmentDesk.Text.Parts
import EnrollmentDesk.Text.Percent

/-!
# Tables of code points

A property of characters is a table: rows in increasing order, each for the code points from one to
another. A table is written as text, its rows parted by blanks: `300-314` is a row without a value,
`300-314:E6` has the value `E6`, and a row for one code point has no hyphen. All numbers are
hexadecimal.
-/

namespace EnrollmentDesk.Text

/-- What a table says of the code points from `first` to `last`. -/
structure CodeRow (α : Type) where
  first : Nat
  last : Nat
  value : α

/-- Rows in increasing order, none of which overlap. -/
structure CodeTable (α : Type) where
  rows : Array (CodeRow α)

/-- The number that hexadecimal digits write. -/
def ofHex (ds : List Char) : Nat :=
  ds.foldl (fun n d => 16 * n + (hexValue? d).getD 0) 0

namespace CodeTable

variable {α : Type}

/-- Reads a row. -/
def readRow (value : List Char → α) (word : List Char) : CodeRow α :=
  let (range, v) := (cutAt (· = ':') word).getD (word, [])
  let (first, last) := (cutAt (· = '-') range).getD (range, range)
  ⟨ofHex first, ofHex last, value v⟩

/-- Reads a table, given how a value is read. -/
def ofText (value : List Char → α) (text : String) : CodeTable α :=
  ⟨((words text.toList).map (readRow value)).toArray⟩

/-- The row of a code point among those from `lo` up to `hi`. -/
def search (rows : Array (CodeRow α)) (n lo hi : Nat) : Option (CodeRow α) :=
  if lo < hi then
    let middle := (lo + hi) / 2
    match rows[middle]? with
    | none => none
    | some row =>
      if n < row.first then search rows n lo middle
      else if row.last < n then search rows n (middle + 1) hi
      else some row
  else none
termination_by hi - lo

/-- The row of a character. -/
def row? (t : CodeTable α) (c : Char) : Option (CodeRow α) :=
  search t.rows c.toNat 0 t.rows.size

/-- What the table says of a character. -/
def get? (t : CodeTable α) (c : Char) : Option α :=
  (t.row? c).map CodeRow.value

/-- Whether the table has the character. -/
def contains (t : CodeTable α) (c : Char) : Bool :=
  (t.row? c).isSome

end CodeTable

/-- A set of characters: a table that only says which code points it has. -/
abbrev CodeSet : Type := CodeTable Unit

/-- Reads a set. -/
def CodeSet.ofText (text : String) : CodeSet :=
  CodeTable.ofText (fun _ => ()) text

end EnrollmentDesk.Text
