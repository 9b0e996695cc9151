import EnrollmentDesk.Calendar.Instant
import EnrollmentDesk.Text.Blank
import EnrollmentDesk.Text.Numeral

/-!
# Reading instants

An instant is read from a date, a time with seconds and an offset. The reader is lenient in the
layout (fewer digits, blanks between the parts, a blank or a `t` for the `T`, `UTC` for the `Z`) and
strict in the content: the date must be in the calendar, the time on the clock, the offset less than
a day, and both the date as it is written and the instant must be such as can be stored.
-/

namespace EnrollmentDesk.InstantReader

open Text Numeral

/-- What a part of the reader returns: a value and the text after it. -/
abbrev Part (α : Type) := Option (α × List Char)

/-- The text without the blanks in front. -/
def skipBlanks (s : List Char) : List Char :=
  s.dropWhile isBlank

/-- At least one and at most `most` digits. -/
def digits (most : Nat) (s : List Char) : Part Nat :=
  let ds := (s.take most).takeWhile Char.isDigit
  if ds.isEmpty then none else some (natOfDigits ds, s.drop ds.length)

/-- A number of at most two digits within the bounds, after any blanks. -/
def twoDigits (lo hi : Nat) (s : List Char) : Part Nat :=
  (digits 2 (skipBlanks s)).filter fun p => lo ≤ p.1 && p.1 ≤ hi

/-- A given character, after any blanks. -/
def mark (c : Char) (s : List Char) : Option (List Char) :=
  match skipBlanks s with
  | x :: rest => if x = c then some rest else none
  | [] => none

/-- A year: at most four digits, or a sign and any number of them. -/
def year (s : List Char) : Part Int :=
  match skipBlanks s with
  | '-' :: rest => (digits rest.length rest).map fun p => (-(p.1 : Int), p.2)
  | '+' :: rest => (digits rest.length rest).map fun p => ((p.1 : Int), p.2)
  | rest => (digits 4 rest).map fun p => ((p.1 : Int), p.2)

/-- The fraction of a second in nanoseconds, if there is one. Digits after the ninth are dropped. -/
def fraction : List Char → Part Nat
  | '.' :: s =>
    let ds := (s.take 9).takeWhile Char.isDigit
    if ds.isEmpty then none
    else
      some (natOfDigits (ds ++ List.replicate (9 - ds.length) '0'),
        (s.drop ds.length).dropWhile Char.isDigit)
  | s => some (0, s)

/-- Whether the text begins with `UTC` in either case. -/
def startsWithUtc (s : List Char) : Bool :=
  (s.take 3).map Char.toLower = ['u', 't', 'c']

/-- The size of an offset in seconds: two digits of hours and two of minutes. -/
def offsetSize (s : List Char) : Part Nat :=
  match s with
  | a :: b :: rest =>
    match rest.dropWhile (fun c => c = ':' || isBlank c) with
    | c :: d :: rest' =>
      if isDigits [a, b] && isDigits [c, d] && natOfDigits [c, d] < 60 then
        some (3600 * natOfDigits [a, b] + 60 * natOfDigits [c, d], rest')
      else none
    | _ => none
  | _ => none

/-- An offset: `Z`, `UTC`, or a sign and a size. -/
def offset (s : List Char) : Part Int :=
  if startsWithUtc s then some (0, s.drop 3)
  else
    match s with
    | 'Z' :: rest => some (0, rest)
    | 'z' :: rest => some (0, rest)
    | '+' :: rest => (offsetSize rest).map fun p => ((p.1 : Int), p.2)
    | '-' :: rest => (offsetSize rest).map fun p => (-(p.1 : Int), p.2)
    | '\u2212' :: rest => (offsetSize rest).map fun p => (-(p.1 : Int), p.2)
    | _ => none

/-- A date. -/
def date (s : List Char) : Option (CivilDate × List Char) := do
  let (y, s) ← year s
  let s ← mark '-' s
  let (m, s) ← twoDigits 1 12 s
  let s ← mark '-' s
  let (d, s) ← twoDigits 1 31 s
  return (⟨y, m, d⟩, s)

/-- A time of day in seconds and nanoseconds. The sixtieth second is a leap second: it belongs to
the one before it. -/
def time (s : List Char) : Option ((Nat × Nat) × List Char) := do
  let (h, s) ← twoDigits 0 23 s
  let s ← mark ':' s
  let (m, s) ← twoDigits 0 59 s
  let s ← mark ':' s
  let (sec, s) ← twoDigits 0 60 s
  let (nano, s) ← fraction s
  let minute := 3600 * h + 60 * m
  let leap := nanosPerSecond.toNat
  return (if sec = 60 then (minute + 59, leap + nano) else (minute + sec, nano), s)

/-- What may stand between the date and the time. -/
def between : List Char → Option (List Char)
  | 'T' :: s => some s
  | 't' :: s => some s
  | ' ' :: s => some s
  | _ => none

/-- Reads an instant. -/
def read (s : List Char) : Option Instant := do
  let (c, s) ← date s
  let s ← between s
  let ((second, nano), s) ← time s
  let (east, s) ← offset (skipBlanks s)
  let zone ← Offset.ofSeconds? east
  let t := Instant.ofSecond (c.toDay.number * secondsPerDay - zone.seconds + second) nano
  let day := c.toDay.start .utc
  if (skipBlanks s).isEmpty && c.isValid && day.isRepresentable && t.isRepresentable then some t
  else none

end EnrollmentDesk.InstantReader

namespace EnrollmentDesk

/-- Reads an instant. -/
def Instant.read? (s : String) : Option Instant :=
  InstantReader.read s.toList

end EnrollmentDesk
