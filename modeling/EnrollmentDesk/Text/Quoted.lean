import EnrollmentDesk.Text.Printable

/-!
# Quoted text

Where a line of log or a message has to show where a text begins and ends, the text stands between
double quotes: a quote or a backslash has a backslash before it, the common controls have their
letter, and any other character that is not printable is written as its number in hexadecimal.
-/

namespace EnrollmentDesk.Text

/-- The number of a character in lower-case hexadecimal, between braces. -/
def escapeNumber (c : Char) : List Char :=
  ['\\', 'u', '\x7b'] ++ Nat.toDigits 16 c.toNat ++ ['\x7d']

/-- A character as it is written between double quotes. -/
def quoteChar (c : Char) : List Char :=
  if c = '\x00' then ['\\', '0']
  else if c = '\t' then ['\\', 't']
  else if c = '\r' then ['\\', 'r']
  else if c = '\n' then ['\\', 'n']
  else if c = '\x22' then ['\\', '\x22']
  else if c = '\\' then ['\\', '\\']
  else if isPrintable c then [c]
  else escapeNumber c

/-- The text between double quotes. -/
def quoted (s : String) : String :=
  "\"" ++ .ofList (s.toList.flatMap quoteChar) ++ "\""

end EnrollmentDesk.Text
