import EnrollmentDesk.Text.CodeTable
import EnrollmentDesk.Url.Domain.Mapping.Rows

/-!
# Mapping the characters of a domain name

A domain name may be typed with capital letters, with letters of full width, with ligatures and with
invisible characters. Each character stands for itself, for others or for nothing, or no domain name
has it.
-/

namespace EnrollmentDesk.Domain

open Text

/-- What the characters of a row stand for. -/
inductive Replacement where
  /-- The first for this code point, the next for the next. -/
  | shift (first : Nat)
  /-- Each for this text. -/
  | text (s : List Char)
  /-- A capital letter for the character after it, which is its small letter and follows it. -/
  | small

/-- Reads the value of a row. -/
def Replacement.read : List Char → Replacement
  | ['/'] => small
  | '=' :: code => text [Char.ofNat (ofHex code)]
  | codes =>
    match parts (· = '_') codes with
    | [code] => shift (ofHex code)
    | codes => text (codes.map fun code => Char.ofNat (ofHex code))

/-- The characters that stand for others. -/
def mapped : CodeTable Replacement := .ofText Replacement.read mappedRows

/-- The characters that stand for nothing. -/
def ignored : CodeSet := .ofText ignoredRows

/-- The characters that no domain name has. -/
def disallowed : CodeSet := .ofText disallowedRows

/-- What a character of a row stands for. -/
def Replacement.apply (row : CodeRow Replacement) (c : Char) : List Char :=
  match row.value with
  | shift first => [Char.ofNat (first + (c.toNat - row.first))]
  | text s => s
  | small => if (c.toNat - row.first) % 2 = 0 then [Char.ofNat (c.toNat + 1)] else [c]

/-- What a typed character stands for; `none` if no domain name has it. -/
def mapChar (c : Char) : Option (List Char) :=
  if c.toNat < 0x80 then some [c.toLower]
  else
    match mapped.row? c with
    | some row => some (Replacement.apply row c)
    | none =>
      if ignored.contains c then some [] else if disallowed.contains c then none else some [c]

/-- A character that stands for itself. -/
def isKept (c : Char) : Bool :=
  mapChar c = some [c]

/-- What a typed name stands for. -/
def mapName (name : List Char) : Option (List Char) :=
  (name.mapM mapChar).map List.flatten

end EnrollmentDesk.Domain
