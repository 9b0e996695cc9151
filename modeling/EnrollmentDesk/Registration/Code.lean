import EnrollmentDesk.Text.Blank
import EnrollmentDesk.Text.Digit
import EnrollmentDesk.Text.Numeral

/-!
# Codes

A registration code is the letters and digits of the desk, a hyphen and six digits, as in
`REG-042317`; a link code is six digits. The digits come from a draw.

A family types a registration code as it likes: in either case, with blanks, hyphens and underscores
or nothing before the six digits, or the six digits alone. `RegistrationCode.normalize` reads all of
these. What is typed before the separators must be the letters and digits of the desk, and must have
a letter: digits alone are taken for a mistyped number. The six digits may be of any script and stay
as typed.
-/

namespace EnrollmentDesk

/-- A random number that a code is made of. -/
abbrev Draw := Fin 1000000

/-- How many digits a code has. -/
def codeDigits : Nat := 6

/-- A draw in six digits: also the link code it makes. -/
def Draw.digits (d : Draw) : String :=
  Numeral.padded codeDigits d.val

namespace RegistrationCode

open Text

/-- The code that a draw makes. -/
def make (desk : String) (d : Draw) : String :=
  desk ++ "-" ++ d.digits

/-- An upper-case ASCII letter or an ASCII digit. -/
def isCodeChar (c : Char) : Bool :=
  c.isUpper || c.isDigit

/-- What may stand between the letters and the six digits. -/
def isSeparator (c : Char) : Bool :=
  isBlank c || c = '-' || c = '_'

/-- Letters and digits with at least one letter: what may stand before the separators. -/
def isWord (w : List Char) : Bool :=
  w.all isCodeChar && w.any Char.isUpper

/-- ASCII letters in capitals. -/
def capitals (s : List Char) : List Char :=
  s.map Char.toUpper

/-- The last six characters of a text, and the text before them. -/
def splitDigits (s : List Char) : List Char × List Char :=
  (s.take (s.length - codeDigits), s.drop (s.length - codeDigits))

/-- A text without the separators at its end. -/
def dropSeparators (s : List Char) : List Char :=
  (s.reverse.dropWhile isSeparator).reverse

/-- The code of the desk that a family typed, written in full; `none` if it typed no such code. -/
def normalizeChars (desk typed : List Char) : Option (List Char) :=
  let (head, digits) := splitDigits (capitals (trimChars typed))
  let word := dropSeparators head
  if digits.length = codeDigits && digits.all isDecimal &&
      (head.isEmpty || (isWord word && word = capitals desk)) then
    some (capitals desk ++ '-' :: digits)
  else none

/-- The code of the desk that a family typed, written in full; `none` if it typed no such code. -/
def normalize (desk typed : String) : Option String :=
  (normalizeChars desk.toList typed.toList).map String.ofList

end RegistrationCode

namespace LinkCode

/-- The link code that a family typed: its digits, if they are six. Everything else is dropped. -/
def normalize (typed : String) : Option String :=
  let ds := typed.toList.filter Char.isDigit
  if ds.length = codeDigits then some (.ofList ds) else none

end LinkCode

end EnrollmentDesk
