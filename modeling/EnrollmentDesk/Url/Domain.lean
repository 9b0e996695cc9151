import EnrollmentDesk.Url.Domain.Direction
import EnrollmentDesk.Url.Domain.Joining
import EnrollmentDesk.Url.Domain.Mapping
import EnrollmentDesk.Url.Error
import EnrollmentDesk.Url.Punycode

/-!
# Domain names

A domain name is compared without regard to case, and may be typed in any script, with percent
signs, in full-width letters or with the full stops of East Asia; it is kept in one form, in lower
case and ASCII. A label that is no ASCII is written in Punycode after `xn--`, and a label typed in
that form must be what some label is written as.
-/

namespace EnrollmentDesk.Domain

open Text

/-- An ASCII character that no domain name has. -/
def isForbidden (c : Char) : Bool :=
  c.toNat ≤ 0x20 || c.toNat = 0x7F ||
    ['%', '#', '/', ':', '<', '>', '?', '@', '[', '\\', ']', '^', '|'].contains c

/-- A label of a domain name. -/
structure Label where
  /-- As people read it. -/
  text : List Char
  /-- In ASCII. -/
  written : List Char
deriving DecidableEq

/-- What a label in Punycode begins with. -/
def punycodeMark : List Char := ['x', 'n', '-', '-']

/-- The longest label that is written in Punycode. -/
def maxLabel : Nat := 1000

/-- The longest text in Punycode that is read. -/
def maxEncoded : Nat := 2000

/-- Whether a text is a label that ASCII cannot write. -/
def isForeign (text : List Char) : Bool :=
  !text.all Punycode.isAscii && !text.any isForbidden && text.length ≤ maxLabel && fits text

/-- Reads the label that stands in Punycode after its mark. -/
def readEncoded (code : List Char) : Option Label :=
  if code.all Punycode.isAscii && code.getLast?.any (· ≠ '-') && code.length ≤ maxEncoded then
    match Punycode.decode? code with
    | some text =>
      if text.all isKept && composed text = text && isForeign text then
        some ⟨text, punycodeMark ++ code⟩
      else none
    | none => none
  else none

/-- Reads a label, mapped and composed. -/
def readLabel (text : List Char) : Option Label :=
  if text.take 4 = punycodeMark then readEncoded (text.drop 4)
  else if text.all Punycode.isAscii then
    if text.any isForbidden then none else some ⟨text, text⟩
  else if isForeign text then some ⟨text, punycodeMark ++ Punycode.encode text⟩
  else none

/-- The labels of a typed domain name. -/
def readLabels (typed : List Char) : Option (List Label) := do
  let name ← mapName (percentDecode typed)
  let labels ← (parts (· = '.') (composed name)).mapM readLabel
  if directionsAgree (labels.map Label.text) then some labels else none

/-- The one form of a typed domain name. -/
def read (typed : List Char) : Except UrlError (List Char) :=
  match readLabels typed with
  | none => .error .badDomain
  | some labels =>
    let host := ['.'].intercalate (labels.map Label.written)
    if host.isEmpty then .error .emptyHost else .ok host

end EnrollmentDesk.Domain
