import EnrollmentDesk.Text.Utf8

/-!
# Percent-encoding

A byte is written as a percent sign and two hexadecimal digits. Which characters are encoded depends
on where the text is to stand, so the encoder takes the set of those it keeps.
-/

namespace EnrollmentDesk.Text

/-- An upper-case hexadecimal digit. -/
def hexDigit (n : Nat) : Char :=
  if n < 10 then Char.ofNat (0x30 + n) else Char.ofNat (0x37 + n)

/-- The value of a hexadecimal digit of either case. -/
def hexValue? (c : Char) : Option Nat :=
  let n := c.toNat
  if 0x30 ≤ n && n ≤ 0x39 then some (n - 0x30)
  else if 0x41 ≤ n && n ≤ 0x46 then some (n - 0x37)
  else if 0x61 ≤ n && n ≤ 0x66 then some (n - 0x57)
  else none

/-- A byte as a percent sign and two digits. -/
def percentByte (b : Nat) : List Char :=
  ['%', hexDigit (b / 16), hexDigit (b % 16)]

/-- A character as the percent-encoded bytes of its UTF-8 form. -/
def percentChar (c : Char) : List Char :=
  (utf8Bytes c).flatMap percentByte

/-- The text with every character encoded that is not to be kept. -/
def percentEncode (keep : Char → Bool) (s : List Char) : List Char :=
  s.flatMap fun c => if keep c then [c] else percentChar c

/-- The characters that mean themselves everywhere in an address. -/
def isUnreserved (c : Char) : Bool :=
  c.isAlphanum || c = '-' || c = '_' || c = '.' || c = '~'

/-- The bytes of a percent-encoded text. A percent sign without two digits is a byte of its own. -/
def percentBytes : List Char → List Nat
  | [] => []
  | '%' :: a :: b :: s =>
    match hexValue? a, hexValue? b with
    | some x, some y => (16 * x + y) :: percentBytes s
    | _, _ => 0x25 :: percentBytes (a :: b :: s)
  | c :: s => utf8Bytes c ++ percentBytes s

/-- The text that a percent-encoded text stands for. -/
def percentDecode (s : List Char) : List Char :=
  ofUtf8 (percentBytes s)

end EnrollmentDesk.Text
