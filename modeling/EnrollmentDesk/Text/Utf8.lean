import EnrollmentDesk.Text.Numeral

/-!
# UTF-8

Addresses carry characters outside ASCII as the bytes of their UTF-8 form. Reading bytes back is
lenient: a byte that begins no character is read as U+FFFD, and so is a character cut short, as a
whole. Where that will not do, `utf8Fault?` says where the first such bytes are.
-/

namespace EnrollmentDesk.Text

/-- The UTF-8 form of a character. -/
def utf8Bytes (c : Char) : List Nat :=
  let n := c.toNat
  if n < 0x80 then [n]
  else if n < 0x800 then [0xC0 + n / 0x40, 0x80 + n % 0x40]
  else if n < 0x10000 then [0xE0 + n / 0x1000, 0x80 + n / 0x40 % 0x40, 0x80 + n % 0x40]
  else [0xF0 + n / 0x40000, 0x80 + n / 0x1000 % 0x40, 0x80 + n / 0x40 % 0x40, 0x80 + n % 0x40]

/-- The character that stands for bytes which are none. -/
def replacement : Char := '\uFFFD'

/-- A character of which some bytes have been read: how many are to come, the value so far, and the
range of the next byte. -/
structure Pending where
  missing : Nat
  value : Nat
  lo : Nat
  hi : Nat

/-- The first byte of a character: what it completes, and what it leaves pending. -/
def firstByte (b : Nat) : List Char × Option Pending :=
  if b < 0x80 then ([Char.ofNat b], none)
  else if 0xC2 ≤ b && b < 0xE0 then ([], some ⟨1, b - 0xC0, 0x80, 0xBF⟩)
  else if b = 0xE0 then ([], some ⟨2, 0, 0xA0, 0xBF⟩)
  else if b = 0xED then ([], some ⟨2, 0xD, 0x80, 0x9F⟩)
  else if 0xE1 ≤ b && b < 0xF0 then ([], some ⟨2, b - 0xE0, 0x80, 0xBF⟩)
  else if b = 0xF0 then ([], some ⟨3, 0, 0x90, 0xBF⟩)
  else if b = 0xF4 then ([], some ⟨3, 4, 0x80, 0x8F⟩)
  else if 0xF1 ≤ b && b < 0xF4 then ([], some ⟨3, b - 0xF0, 0x80, 0xBF⟩)
  else ([replacement], none)

/-- The next byte. One that does not continue the pending character begins another. -/
def nextByte : Option Pending → Nat → List Char × Option Pending
  | none, b => firstByte b
  | some p, b =>
    if p.lo ≤ b && b ≤ p.hi then
      let value := 0x40 * p.value + (b - 0x80)
      if p.missing ≤ 1 then ([Char.ofNat value], none)
      else ([], some ⟨p.missing - 1, value, 0x80, 0xBF⟩)
    else
      let (out, rest) := firstByte b
      (replacement :: out, rest)

/-- Reads bytes after a character that may be pending. -/
def ofUtf8From : Option Pending → List Nat → List Char
  | none, [] => []
  | some _, [] => [replacement]
  | pending, b :: bs =>
    let (out, pending') := nextByte pending b
    out ++ ofUtf8From pending' bs

/-- Reads bytes as UTF-8; what is no character is read as the replacement character. -/
def ofUtf8 (bs : List Nat) : List Char :=
  ofUtf8From none bs

/-- The first bytes that are no character. -/
structure Utf8Fault where
  /-- How many bytes come before them. -/
  index : Nat
  /-- How many they are; absent if the text ends in the middle of a character. -/
  length : Option Nat
deriving DecidableEq

/-- The first fault after `index` bytes, of which the last may belong to a pending character that
began at `start`. -/
def utf8FaultFrom (start index : Nat) : Option Pending → List Nat → Option Utf8Fault
  | none, [] => none
  | some _, [] => some ⟨start, none⟩
  | some p, b :: bs =>
    if p.lo ≤ b && b ≤ p.hi then utf8FaultFrom start (index + 1) (nextByte (some p) b).2 bs
    else some ⟨start, some (index - start)⟩
  | none, b :: bs =>
    match firstByte b with
    | ([c], none) =>
      if c = replacement then some ⟨index, some 1⟩ else utf8FaultFrom index (index + 1) none bs
    | (_, pending) => utf8FaultFrom index (index + 1) pending bs

/-- The first fault of bytes that should be UTF-8. -/
def utf8Fault? (bs : List Nat) : Option Utf8Fault :=
  utf8FaultFrom 0 0 none bs

/-- The wording of a fault. -/
def Utf8Fault.message (f : Utf8Fault) : String :=
  match f.length with
  | some n =>
    "invalid utf-8 sequence of " ++ Numeral.ofNat n ++ " bytes from index " ++ Numeral.ofNat f.index
  | none => "incomplete utf-8 byte sequence from index " ++ Numeral.ofNat f.index

end EnrollmentDesk.Text
