/-!
# Civil dates

Days are numbered from 1 January 1970, and a day has a date in the Gregorian calendar, continued
without a gap into the past: the year before year 1 is year 0. Counted from March, the leap day is
the last day of its year, and the lengths of the months follow one straight line; both directions
use that.
-/

namespace EnrollmentDesk

/-- A day, by its number: day 0 is 1 January 1970. -/
structure Day where
  number : Int
deriving DecidableEq

/-- A date of the Gregorian calendar. -/
structure CivilDate where
  year : Int
  month : Int
  day : Int
deriving DecidableEq

/-- Days in 400 years, after which the calendar repeats. -/
def daysPerEra : Int := 146097

/-- The number of 1 March of year 0, negated. -/
def marchOfYearZero : Int := 719468

namespace CivilDate

/-- The first day of a month, counted from 1 March; `m` is 0 for March and 11 for February. -/
def daysBeforeMonth (m : Int) : Int :=
  (153 * m + 2) / 5

/-- The first day of a year, counted from the start of its era; years begin in March. -/
def daysBeforeYear (y : Int) : Int :=
  365 * y + y / 4 - y / 100

/-- The day that has the date. -/
def toDay (c : CivilDate) : Day :=
  let year := if c.month ≤ 2 then c.year - 1 else c.year
  let month := if c.month ≤ 2 then c.month + 9 else c.month - 3
  ⟨year / 400 * daysPerEra + daysBeforeYear (year % 400) + daysBeforeMonth month + (c.day - 1) -
    marchOfYearZero⟩

/-- A year with a leap day. -/
def isLeapYear (y : Int) : Bool :=
  y % 4 = 0 && (y % 100 ≠ 0 || y % 400 = 0)

/-- How many days a month has. -/
def daysInMonth (year month : Int) : Int :=
  if month = 2 then (if isLeapYear year then 29 else 28)
  else if month = 4 || month = 6 || month = 9 || month = 11 then 30
  else 31

/-- A date that the calendar has. -/
def isValid (c : CivilDate) : Bool :=
  1 ≤ c.month && c.month ≤ 12 && 1 ≤ c.day && c.day ≤ daysInMonth c.year c.month

end CivilDate

namespace Day

/-- The date of a day. -/
def date (d : Day) : CivilDate :=
  let z := d.number + marchOfYearZero
  let era := z / daysPerEra
  let dayOfEra := z % daysPerEra
  let yearOfEra :=
    (dayOfEra - dayOfEra / 1460 + dayOfEra / 36524 - dayOfEra / 146096) / 365
  let dayOfYear := dayOfEra - CivilDate.daysBeforeYear yearOfEra
  let month := (5 * dayOfYear + 2) / 153
  let year := 400 * era + yearOfEra
  { year := if month < 10 then year else year + 1
    month := if month < 10 then month + 3 else month - 9
    day := dayOfYear - CivilDate.daysBeforeMonth month + 1 }

/-- The day of the week: 0 is Sunday. -/
def weekday (d : Day) : Nat :=
  ((d.number + 4) % 7).toNat

end Day

end EnrollmentDesk
