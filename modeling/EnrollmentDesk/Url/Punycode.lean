import EnrollmentDesk.Sorting
import EnrollmentDesk.Text.Parts

/-!
# Punycode

A label of a domain name that is not ASCII is written as its ASCII characters and, after a hyphen,
where the others go. These are taken in increasing order, and each is a number: how many places in
the text, counted through all smaller characters first, lie between it and the one before. The
numbers are written in base 36 with the least digit first; a digit below a threshold ends its
number, and the thresholds follow the size of the numbers seen so far (RFC 3492).
-/

namespace EnrollmentDesk.Punycode

open Text

/-- A digit: the letters come first. -/
def digit (d : Nat) : Char :=
  if d < 26 then Char.ofNat (0x61 + d) else Char.ofNat (0x30 + (d - 26))

/-- The value of a digit. -/
def digitValue? (c : Char) : Option Nat :=
  if 'a' ≤ c && c ≤ 'z' then some (c.toNat - 0x61)
  else if '0' ≤ c && c ≤ '9' then some (c.toNat - 0x30 + 26)
  else none

/-- The threshold of the digit at weight `k`. -/
def threshold (k bias : Nat) : Nat :=
  min 26 (max 1 (k - bias))

theorem threshold_pos (k bias : Nat) : 0 < threshold k bias := by
  simp only [threshold]; omega

/-- How often a number has to be divided until it is small, and what is left of it. -/
def shrink (delta k : Nat) : Nat :=
  if 455 < delta then shrink (delta / 35) (k + 36) else k + 36 * delta / (delta + 38)
termination_by delta

/-- The bias after a number, in a text of `size` characters so far. -/
def adapt (delta size : Nat) (first : Bool) : Nat :=
  let d := if first then delta / 700 else delta / 2
  shrink (d + d / size) 0

/-- A number in digits. -/
def writeNumber (bias k q : Nat) : List Char :=
  let t := threshold k bias
  if q < t then [digit q]
  else digit (t + (q - t) % (36 - t)) :: writeNumber bias (k + 36) ((q - t) / (36 - t))
termination_by q
decreasing_by
  have := threshold_pos k bias
  exact Nat.lt_of_le_of_lt (Nat.div_le_self _ _) (by omega)

/-- An ASCII character. -/
def isAscii (c : Char) : Bool :=
  c.toNat < 0x80

/-- A character that is not ASCII, put into the text that holds what comes before it. -/
structure Insertion where
  code : Nat
  /-- The place in that text. -/
  index : Nat
deriving DecidableEq

/-- The insertions that turn the ASCII characters of a label into the label, smaller codes first and
equal codes from left to right. What is left of a character by then is what is left of it in the
label and has no larger code. -/
def insertions (label : List Char) : List Insertion :=
  sortBy (fun a b => a.code ≤ b.code) <|
    (label.zipIdx.filter fun (c, _) => !isAscii c).map fun (c, i) =>
      ⟨c.toNat, (label.take i).countP fun x => x ≤ c⟩

/-- Writes insertions into a text of `size` characters, when the next would have the given code and
index if its number were zero. -/
def writeInsertions (bias size code index : Nat) (first : Bool) : List Insertion → List Char
  | [] => []
  | x :: xs =>
    let size := size + 1
    let delta := (x.code - code) * size + x.index - index
    writeNumber bias 36 delta ++
      writeInsertions (adapt delta size first) size x.code (x.index + 1) false xs

/-- A label in ASCII. -/
def encode (label : List Char) : List Char :=
  let basic := label.filter isAscii
  (if basic.isEmpty then [] else basic ++ ['-']) ++
    writeInsertions 72 basic.length 0x80 0 true (insertions label)

/-- The greatest weight of a digit. -/
def maxWeight : Nat := 0xFFFFFFFF

/-- Reads a number: its value, and the text after it. -/
def readNumber (bias : Nat) : (s : List Char) → (k weight : Nat) →
    Option (Nat × { rest : List Char // rest.length < s.length })
  | [], _, _ => none
  | c :: s, k, weight => do
    let d ← digitValue? c
    let t := threshold k bias
    if d < t then return (d * weight, ⟨s, by simp⟩)
    else if maxWeight < weight * (36 - t) then none
    else
      let (n, rest) ← readNumber bias s (k + 36) (weight * (36 - t))
      return (d * weight + n, ⟨rest.1, Nat.lt_succ_of_lt rest.2⟩)

/-- Reads the numbers and puts the character of each in its place. -/
def place (s out : List Char) (code index bias : Nat) (first : Bool) : Option (List Char) :=
  if s.isEmpty then some out
  else
    match readNumber bias s 36 1 with
    | none => none
    | some (delta, ⟨rest, _⟩) =>
      let size := out.length + 1
      let i := index + delta
      let code := code + i / size
      let at_ := i % size
      if code.isValidChar then
        place rest (out.take at_ ++ Char.ofNat code :: out.drop at_) code (at_ + 1)
          (adapt delta size first) false
      else none
termination_by s.length

/-- Reads a label that was written in ASCII. A hyphen follows ASCII characters only if there are
some. -/
def decode? (s : List Char) : Option (List Char) :=
  let (basic, tail) := (cutAtLast (· = '-') s).getD ([], s)
  if s.head? = some '-' && basic.isEmpty then none
  else if basic.all isAscii then place tail basic 0x80 0 72 true
  else none

end EnrollmentDesk.Punycode
