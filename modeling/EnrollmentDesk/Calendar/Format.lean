import EnrollmentDesk.Calendar.Instant
import EnrollmentDesk.Text.Numeral

/-!
# Written instants

Data is written in universal time with `T` and `Z`, messages with blanks and `UTC`, chats in local
time with the names of the day and the month, and log lines with six digits of the second. A year of
fewer than four digits is filled up with zeros; a year outside 0 to 9999 has a sign.
-/

namespace EnrollmentDesk

open Numeral

/-- A year: four digits, or a sign and at least four. -/
def yearText (y : Int) : String :=
  if y < 0 then "-" ++ padded 4 y.natAbs
  else if y ≤ 9999 then padded 4 y.toNat
  else "+" ++ padded 4 y.toNat

/-- The name of a weekday; 0 is Sunday. -/
def weekdayName : Nat → String
  | 0 => "Sun"
  | 1 => "Mon"
  | 2 => "Tue"
  | 3 => "Wed"
  | 4 => "Thu"
  | 5 => "Fri"
  | _ => "Sat"

/-- The name of a month; 1 is January. -/
def monthName : Int → String
  | 1 => "Jan"
  | 2 => "Feb"
  | 3 => "Mar"
  | 4 => "Apr"
  | 5 => "May"
  | 6 => "Jun"
  | 7 => "Jul"
  | 8 => "Aug"
  | 9 => "Sep"
  | 10 => "Oct"
  | 11 => "Nov"
  | _ => "Dec"

/-- A day as year, month and day. -/
def Day.iso (d : Day) : String :=
  let c := d.date
  yearText c.year ++ "-" ++ padded 2 c.month.toNat ++ "-" ++ padded 2 c.day.toNat

/-- A day as a chat shows it: `Mon, 02 Jan 2006`. -/
def Day.friendly (d : Day) : String :=
  let c := d.date
  weekdayName d.weekday ++ ", " ++ padded 2 c.day.toNat ++ " " ++ monthName c.month ++ " " ++
    yearText c.year

/-- The fraction of a second: none, or the fewest of 3, 6 and 9 digits that lose nothing. -/
def fractionText (nanos : Nat) : String :=
  if nanos = 0 then ""
  else if nanos % 1000000 = 0 then "." ++ padded 3 (nanos / 1000000)
  else if nanos % 1000 = 0 then "." ++ padded 6 (nanos / 1000)
  else "." ++ padded 9 nanos

namespace Instant

/-- Hours and minutes on a clock of the zone. -/
def clockText (t : Instant) (zone : Offset) : String :=
  let s := t.secondOfDay zone
  padded 2 (s / 3600) ++ ":" ++ padded 2 (s / 60 % 60)

/-- The time of day in universal time, without a fraction of the second. A leap second has the next
number. -/
def timeText (t : Instant) : String :=
  let s := t.secondOfDay .utc % 60
  t.clockText .utc ++ ":" ++ padded 2 (if t.isLeap then s + 1 else s)

/-- The nanoseconds of the second that the clock shows. -/
def nanoOfSecond (t : Instant) : Nat :=
  t.nano % nanosPerSecond.toNat

/-- An instant as data holds it: `2030-01-01T00:00:00.500Z`. -/
def iso (t : Instant) : String :=
  (t.localDay .utc).iso ++ "T" ++ t.timeText ++ fractionText t.nanoOfSecond ++ "Z"

/-- An instant as an error message names it: `2030-01-01 00:00:00.500 UTC`. -/
def spelledOut (t : Instant) : String :=
  (t.localDay .utc).iso ++ " " ++ t.timeText ++ fractionText t.nanoOfSecond ++ " UTC"

/-- An instant at the head of a log line: always six digits after the point. -/
def stamp (t : Instant) : String :=
  (t.localDay .utc).iso ++ "T" ++ t.timeText ++ "." ++ padded 6 (t.nanoOfSecond / 1000) ++ "Z"

/-- The local date of an instant as a chat shows it. -/
def friendlyDate (t : Instant) (zone : Offset) : String :=
  (t.localDay zone).friendly

/-- The local date and time of an instant as a chat shows it: `Mon, 02 Jan 2006 15:04`. -/
def friendlyDateTime (t : Instant) (zone : Offset) : String :=
  t.friendlyDate zone ++ " " ++ t.clockText zone

end Instant

end EnrollmentDesk
