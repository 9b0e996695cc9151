/-!
# Decimal numerals

Numbers are written in decimal, with as many leading zeros as a field asks for, and read from an
optional sign and one or more ASCII digits. A reader is given the range of the field it fills: a
numeral outside the range is refused, it never wraps.
-/

namespace EnrollmentDesk

/-- A range of integers, both ends included. -/
structure Range where
  lo : Int
  hi : Int
deriving DecidableEq

namespace Range

/-- Signed 32-bit integers: capacities and offsets in minutes. -/
def signed32 : Range := ⟨-2147483648, 2147483647⟩

/-- Signed 64-bit integers: identifiers and durations. -/
def signed64 : Range := ⟨-9223372036854775808, 9223372036854775807⟩

/-- Unsigned 32-bit integers: counts. -/
def unsigned32 : Range := ⟨0, 4294967295⟩

/-- Unsigned 64-bit integers: numbers of seconds. -/
def unsigned64 : Range := ⟨0, 18446744073709551615⟩

/-- Whether the range holds `n`. -/
def contains (r : Range) (n : Int) : Bool :=
  r.lo ≤ n && n ≤ r.hi

end Range

namespace Numeral

/-- The value of a string of ASCII digits. -/
def natOfDigits (ds : List Char) : Nat :=
  ds.foldl (fun n d => 10 * n + (d.toNat - 0x30)) 0

/-- One or more ASCII digits and nothing else. -/
def isDigits (ds : List Char) : Bool :=
  !ds.isEmpty && ds.all Char.isDigit

/-- Reads a natural number. -/
def readNat? (ds : List Char) : Option Nat :=
  if isDigits ds then some (natOfDigits ds) else none

/-- Reads an integer: at most one sign, then digits. -/
def readInt? : List Char → Option Int
  | '-' :: ds => (readNat? ds).map fun n => -(n : Int)
  | '+' :: ds => (readNat? ds).map fun n => (n : Int)
  | ds => (readNat? ds).map fun n => (n : Int)

/-- Reads an integer of a range. -/
def readInt (r : Range) (s : List Char) : Option Int :=
  (readInt? s).filter r.contains

/-- Reads a number of an unsigned range, for which a minus sign is no sign at all. -/
def readUnsigned (r : Range) : List Char → Option Int
  | '-' :: _ => none
  | s => readInt r s

/-- The decimal digits of a number, without leading zeros. -/
def natDigits (n : Nat) : List Char :=
  Nat.toDigits 10 n

/-- A number in decimal. -/
def ofNat (n : Nat) : String :=
  .ofList (natDigits n)

/-- An integer in decimal, with a minus sign if it is negative. -/
def ofInt : Int → String
  | .ofNat n => ofNat n
  | .negSucc n => "-" ++ ofNat (n + 1)

/-- The digits of a number with zeros in front, up to `width` digits. -/
def paddedDigits (width n : Nat) : List Char :=
  let ds := natDigits n
  List.replicate (width - ds.length) '0' ++ ds

/-- A number in decimal with zeros in front, up to `width` digits. -/
def padded (width n : Nat) : String :=
  .ofList (paddedDigits width n)

variable {width n : Nat} {c : Char}

theorem isDigit_of_mem_natDigits (h : c ∈ natDigits n) : c.isDigit = true :=
  Nat.isDigit_of_mem_toDigits (by decide) (by decide) h

theorem isDigit_of_mem_paddedDigits (h : c ∈ paddedDigits width n) : c.isDigit = true := by
  obtain zero | digit := List.mem_append.1 h
  · rw [List.eq_of_mem_replicate zero]
    rfl
  · exact isDigit_of_mem_natDigits digit

end Numeral

end EnrollmentDesk
