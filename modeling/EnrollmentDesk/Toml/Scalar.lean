import EnrollmentDesk.Calendar.Civil
import EnrollmentDesk.Settings.Tree
import EnrollmentDesk.Text.Percent

/-!
# TOML scalars

A word that stands for a value is a boolean, an integer in one of four bases, a number with a
fraction or an exponent, or a date or time, which is kept as text in one form: with capital letters,
and with no more digits than it takes to say how much of a second has passed, up to nine.
Underscores may stand between digits.
-/

namespace EnrollmentDesk.Toml

open Numeral

/-- The digits of a text without the underscores between them; `none` if an underscore is not
between digits. -/
def joinDigits (isDigit : Char → Bool) : List Char → Option (List Char)
  | [] => none
  | [c] => if isDigit c then some [c] else none
  | c :: '_' :: s => if isDigit c then (joinDigits isDigit s).map (c :: ·) else none
  | c :: s => if isDigit c then (joinDigits isDigit s).map (c :: ·) else none

/-- A digit of a base. -/
def isDigitOf (base : Nat) (c : Char) : Bool :=
  match Text.hexValue? c with
  | some v => v < base
  | none => false

/-- Reads a natural number in a base. -/
def readBase (base : Nat) (s : List Char) : Option Int :=
  (joinDigits (isDigitOf base) s).map fun ds =>
    ((ds.foldl (fun n d => base * n + (Text.hexValue? d).getD 0) 0 : Nat) : Int)

/-- Decimal digits without a zero in front of others. -/
def readWhole (s : List Char) : Option (List Char) :=
  (joinDigits Char.isDigit s).filter fun ds => ds.length = 1 || ds.head? ≠ some '0'

/-- The text without its sign, and whether the sign is a minus. -/
def splitSign : List Char → Bool × List Char
  | '-' :: s => (true, s)
  | '+' :: s => (false, s)
  | s => (false, s)

/-- Reads an integer of 64 bits. -/
def readInteger (w : List Char) : Option Int :=
  let n :=
    match w with
    | '0' :: 'x' :: s => readBase 16 s
    | '0' :: 'o' :: s => readBase 8 s
    | '0' :: 'b' :: s => readBase 2 s
    | _ =>
      let (negative, s) := splitSign w
      (readWhole s).map fun ds => if negative then -(natOfDigits ds : Int) else natOfDigits ds
  n.filter Range.signed64.contains

/-- Reads the exponent of a number. -/
def readExponent (s : List Char) : Option Int :=
  let (negative, ds) := splitSign s
  (joinDigits Char.isDigit ds).map fun ds =>
    if negative then -(natOfDigits ds : Int) else natOfDigits ds

/-- A number from its digits. One beyond all binary numbers is refused, unless it is negative. -/
def ofDigits (d : Decimal) : Option Binary64 :=
  match Binary64.ofDecimal d with
  | .infinite false => none
  | x => some x

/-- Reads a number with a fraction or an exponent, or a word for none. -/
def readReal (w : List Char) : Option Binary64 :=
  let (negative, s) := splitSign w
  if s = "inf".toList then some (.infinite negative)
  else if s = "nan".toList then some .nan
  else do
    let (front, e) :=
      match Text.cutAt (fun c => c = 'e' || c = 'E') s with
      | some (a, b) => (a, readExponent b)
      | none => (s, some 0)
    let e ← e
    match Text.cutAt (· = '.') front with
    | some (a, b) =>
      let whole ← readWhole a
      let fraction ← joinDigits Char.isDigit b
      ofDigits ⟨negative, natOfDigits (whole ++ fraction), e - fraction.length⟩
    | none =>
      if front.length = s.length then none
      else ofDigits ⟨negative, natOfDigits (← readWhole front), e⟩

/-- Two digits of at most the given value. -/
def isPair (most : Nat) (ds : List Char) : Bool :=
  ds.length = 2 && isDigits ds && natOfDigits ds ≤ most

/-- A date. -/
def isDate (w : List Char) : Bool :=
  match Text.parts (· = '-') w with
  | [y, m, d] =>
    y.length = 4 && isDigits y && isPair 12 m && isPair 31 d &&
      (⟨natOfDigits y, natOfDigits m, natOfDigits d⟩ : CivilDate).isValid
  | _ => false

/-- How many digits of a second are kept. -/
def secondDigits : Nat := 9

/-- A time of day in its one form. -/
def readTime (w : List Char) : Option (List Char) :=
  let (clock, fraction) := (Text.cutAt (· = '.') w).getD (w, ['0'])
  let kept := ((fraction.take secondDigits).reverse.dropWhile (· = '0')).reverse
  let known := isDigits fraction &&
    match Text.parts (· = ':') clock with
    | [h, m, s] => isPair 23 h && isPair 59 m && isPair 60 s
    | _ => false
  if known then some (if kept.isEmpty then clock else clock ++ '.' :: kept) else none

/-- An offset from universal time in its one form: none is written with a plus sign. -/
def readOffset (w : List Char) : Option (List Char) :=
  match w with
  | ['Z'] => some w
  | sign :: rest =>
    let known := (sign = '+' || sign = '-') &&
      match Text.parts (· = ':') rest with
      | [h, m] => isPair 23 h && isPair 59 m
      | _ => false
    if !known then none
    else some (if rest = "00:00".toList then '+' :: rest else w)
  | [] => some []

/-- A time of day, perhaps with an offset. -/
def readZonedTime (w : List Char) : Option (List Char) := do
  let front := w.takeWhile fun c => c ≠ '+' && c ≠ '-' && c ≠ 'Z'
  return (← readTime front) ++ (← readOffset (w.drop front.length))

/-- The text of a date or a time. -/
def readMoment (w : List Char) : Option String :=
  let w := w.map fun c => if c = 't' then 'T' else if c = 'z' then 'Z' else c
  String.ofList <$>
    match Text.cutAt (· = 'T') w with
    | some (a, b) => if isDate a then (readZonedTime b).map fun b => a ++ 'T' :: b else none
    | none => if isDate w then some w else readTime w

/-- Reads a word as a value. -/
def readScalar (w : List Char) : Option Setting :=
  if w = "true".toList then some (.bool true)
  else if w = "false".toList then some (.bool false)
  else
    match readInteger w, readReal w, readMoment w with
    | some n, _, _ => some (.int n)
    | _, some x, _ => some (.real x)
    | _, _, some s => some (.text s)
    | _, _, _ => none

end EnrollmentDesk.Toml
