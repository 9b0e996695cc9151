import EnrollmentDesk.Json.Value
import EnrollmentDesk.Text.Numeral
import EnrollmentDesk.Text.Percent

/-!
# Writing JSON

A value is written without blanks. In strings the quote, the backslash and the control characters
are escaped, and every other character stands as it is.
-/

namespace EnrollmentDesk.Json

/-- A character inside a string. -/
def escapeChar (c : Char) : List Char :=
  if c = '\x22' then ['\\', '\x22']
  else if c = '\\' then ['\\', '\\']
  else if c.toNat < 0x20 then
    ['\\', 'u', '0', '0', Text.hexDigit (c.toNat / 16), Text.hexDigit (c.toNat % 16)]
  else [c]

/-- A string with its quotes. -/
def writeString (s : String) : String :=
  "\"" ++ .ofList (s.toList.flatMap escapeChar) ++ "\""

/-- A number that is no integer, with an exponent. -/
def writeDecimal (d : Decimal) : String :=
  (if d.negative then "-" else "") ++ Numeral.ofNat d.coefficient ++ "e" ++
    Numeral.ofInt d.exponent

mutual

/-- A value as text. -/
def write : Json → String
  | .null => "null"
  | .bool true => "true"
  | .bool false => "false"
  | .int n => Numeral.ofInt n
  | .real d => writeDecimal d
  | .str s => writeString s
  | .arr items => "[" ++ writeItems items ++ "]"
  | .obj members => "\x7b" ++ writeMembers members ++ "\x7d"

/-- The items of an array, with commas between. -/
def writeItems : List Json → String
  | [] => ""
  | [j] => write j
  | j :: rest => write j ++ "," ++ writeItems rest

/-- The members of an object, with commas between. -/
def writeMembers : List (String × Json) → String
  | [] => ""
  | [(name, j)] => writeString name ++ ":" ++ write j
  | (name, j) :: rest => writeString name ++ ":" ++ write j ++ "," ++ writeMembers rest

end

end EnrollmentDesk.Json
