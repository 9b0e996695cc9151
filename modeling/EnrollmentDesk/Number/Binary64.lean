import EnrollmentDesk.Json.Value
import EnrollmentDesk.Text.Numeral

/-!
# Binary numbers of 64 bits

A number with a fraction is kept as the nearest of the binary numbers of 64 bits: `m * 2 ^ q` with
`m < 2 ^ 53` and `q` between -1074 and 971. Of two equally near the one with an even `m` is taken,
and what lies beyond the largest is infinite.

It is written with the fewest digits that read back as the same number, without an exponent.

A decimal number is read as the nearest binary one (`ofDecimal`), or, where that is the custom of
the format, as one near it (`nearDecimal`): its coefficient is rounded first, and then multiplied or
divided by a power of ten, with one rounding more.
-/

namespace EnrollmentDesk

/-- A binary number of 64 bits. -/
inductive Binary64 where
  | finite (negative : Bool) (m : Nat) (q : Int)
  | infinite (negative : Bool)
  | nan
deriving DecidableEq

namespace Binary64

/-- What the coefficient of a number stays below. -/
def coefficientBound : Nat := 9007199254740992

/-- The nearest integer to a ratio; the even one of two. -/
def roundEven (num den : Nat) : Nat :=
  let d := num / den
  let r := num % den
  if den < 2 * r || (2 * r = den && d % 2 = 1) then d + 1 else d

/-- A ratio divided by a power of two. -/
def scaleDown (num den : Nat) (q : Int) : Nat × Nat :=
  if q < 0 then (num * Nat.pow 2 q.natAbs, den) else (num, den * Nat.pow 2 q.natAbs)

/-- The nearest binary number to a positive ratio. -/
def ofRatio (negative : Bool) (num den : Nat) : Binary64 :=
  let low : Int := max (-1074) ((num.log2 : Int) - den.log2 - 53)
  let (n, d) := scaleDown num den low
  let q := if coefficientBound ≤ n / d then low + 1 else low
  let (n, d) := scaleDown num den q
  let m := roundEven n d
  let (m, q) := if m = coefficientBound then (coefficientBound / 2, q + 1) else (m, q)
  if 971 < q then infinite negative else finite negative m q

/-- The number of decimal digits. -/
def size (n : Nat) : Nat :=
  (Numeral.natDigits n).length

/-- The nearest binary number to a decimal one. -/
def ofDecimal (x : Decimal) : Binary64 :=
  let magnitude := x.exponent + size x.coefficient
  if x.coefficient = 0 || magnitude < -330 then finite x.negative 0 (-1074)
  else if 310 < magnitude then infinite x.negative
  else if x.exponent < 0 then ofRatio x.negative x.coefficient (Nat.pow 10 x.exponent.natAbs)
  else ofRatio x.negative (x.coefficient * Nat.pow 10 x.exponent.natAbs) 1

/-- The size of a finite number as a ratio. -/
def ratio (m : Nat) (q : Int) : Nat × Nat :=
  if q < 0 then (m, Nat.pow 2 q.natAbs) else (m * Nat.pow 2 q.natAbs, 1)

/-- The nearest number to a product. -/
def times : Binary64 → Binary64 → Binary64
  | finite s m q, finite t n p =>
    let (a, b) := ratio m q
    let (c, d) := ratio n p
    ofRatio (s != t) (a * c) (b * d)
  | _, _ => nan

/-- The nearest number to a quotient; the divisor is not zero. -/
def dividedBy : Binary64 → Binary64 → Binary64
  | finite s m q, finite t n p =>
    let (a, b) := ratio m q
    let (c, d) := ratio n p
    ofRatio (s != t) (a * d) (b * c)
  | _, _ => nan

/-- The nearest number to a power of ten. -/
def powerOfTen (e : Nat) : Binary64 :=
  ofRatio false (Nat.pow 10 e) 1

/-- The exponent of the largest power of ten that is finite. -/
def maxPowerOfTen : Nat := 308

/-- A number divided by a power of ten, in more than one step if it has to be. -/
def shiftDown (x : Binary64) (places : Nat) : Binary64 :=
  if places ≤ maxPowerOfTen then x.dividedBy (powerOfTen places)
  else
    match x with
    | finite _ 0 _ => x
    | _ => shiftDown (x.dividedBy (powerOfTen maxPowerOfTen)) (places - maxPowerOfTen)
termination_by places
decreasing_by simp only [maxPowerOfTen] at *; omega

/-- A binary number near a decimal one. -/
def nearDecimal (x : Decimal) : Binary64 :=
  let n := ofRatio x.negative x.coefficient 1
  if x.exponent < 0 then shiftDown n x.exponent.natAbs
  else if x.coefficient = 0 then n
  else if maxPowerOfTen < x.exponent then infinite x.negative
  else n.times (powerOfTen x.exponent.natAbs)

/-- The largest `k` with `10 ^ k` at most a positive ratio. -/
def decimalExponent (num den : Nat) : Int :=
  let k : Int := (size num : Int) - size den
  let scale := Nat.pow 10 k.natAbs
  let reaches := if k < 0 then den ≤ num * scale else den * scale ≤ num
  if reaches then k else k - 1

/-- The two decimal numbers with so many digits next to a ratio, one of them not above it and one
above: the nearer first, and of two equally near the greater. -/
def neighbours (num den digits : Nat) : List Decimal :=
  let e := decimalExponent num den - digits + 1
  let scale := Nat.pow 10 e.natAbs
  let (n, d) := if e < 0 then (num * scale, den) else (num, den * scale)
  let low := n / d
  if d ≤ 2 * (n % d) then [⟨false, low + 1, e⟩, ⟨false, low, e⟩]
  else [⟨false, low, e⟩, ⟨false, low + 1, e⟩]

/-- The shortest decimal number that reads back as `m * 2 ^ q`: of several the nearest, of two
equally near the greater. -/
def shortest (m : Nat) (q : Int) : Decimal :=
  let (num, den) := ratio m q
  let candidates := (List.range 17).flatMap fun i => neighbours num den (i + 1)
  (candidates.find? fun x => ofDecimal x = ofRatio false num den).getD ⟨false, m, q⟩

/-- A decimal number without an exponent. -/
def writePlain (x : Decimal) : String :=
  let ds := Numeral.natDigits x.coefficient
  if 0 ≤ x.exponent then .ofList (ds ++ List.replicate x.exponent.natAbs '0')
  else
    let places := x.exponent.natAbs
    let ds := List.replicate (places + 1 - ds.length) '0' ++ ds
    let fraction := (ds.drop (ds.length - places)).reverse.dropWhile (· = '0')
    let whole := ds.take (ds.length - places)
    .ofList (if fraction.isEmpty then whole else whole ++ '.' :: fraction.reverse)

/-- A number as text. -/
def write : Binary64 → String
  | nan => "NaN"
  | infinite negative => if negative then "-inf" else "inf"
  | finite negative m q =>
    (if negative then "-" else "") ++ if m = 0 then "0" else writePlain (shortest m q)

/-- The nearest integer of a range; of two equally near the one away from zero. What is no number
counts as zero. -/
def toInt (r : Range) : Binary64 → Int
  | nan => 0
  | infinite negative => if negative then r.lo else r.hi
  | finite negative m q =>
    let (num, den) := ratio m q
    let size : Int := ((2 * num + den) / (2 * den) : Nat)
    max r.lo (min r.hi (if negative then -size else size))

/-- Reads the digits of an exponent. -/
def readExponent : List Char → Option Int
  | [] => some 0
  | c :: s => if c = 'e' || c = 'E' then Numeral.readInt? s else none

/-- Reads a number without its sign: digits with at most one point among them, then perhaps an
exponent; or a word. -/
def readUnsigned (negative : Bool) (s : List Char) : Option Binary64 :=
  let word := s.map Char.toLower
  if word = "inf".toList || word = "infinity".toList then some (infinite negative)
  else if word = "nan".toList then some nan
  else
    let (whole, rest) := s.span Char.isDigit
    let (fraction, rest) :=
      match rest with
      | '.' :: tail => tail.span Char.isDigit
      | _ => ([], rest)
    if whole.isEmpty && fraction.isEmpty then none
    else
      (readExponent rest).map fun e =>
        ofDecimal ⟨negative, Numeral.natOfDigits (whole ++ fraction), e - fraction.length⟩

/-- Reads a number. -/
def read? : List Char → Option Binary64
  | '-' :: s => readUnsigned true s
  | '+' :: s => readUnsigned false s
  | s => readUnsigned false s

end Binary64

end EnrollmentDesk
