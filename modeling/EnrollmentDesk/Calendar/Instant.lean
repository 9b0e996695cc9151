import EnrollmentDesk.Calendar.Civil

/-!
# Instants, offsets and local days

An instant is a second, counted from the start of 1970 in universal time, and the nanoseconds since
it began. Families live in one time zone, a fixed offset east of it, and rules that speak of "the
same day" mean the calendar day there. A local day is a half-open range of instants
(`Instant.dayBounds`), and two instants are on the same local day exactly if one lies in the range
of the other.

A clock may be told to wait a leap second. It belongs to the second before it, which then lasts two,
and stands between that second and the next. So each second has room for twice as many nanoseconds
as it usually lasts, and the instants are numbered by their places in that room: the order of the
numbers is the order of the instants.

Every integer is an instant here. Storage and messages take only those of the years -262143 to
262142 (`Instant.isRepresentable`), so what may leave them is checked: a sum
(`Instant.afterMinutes?`), and the range of a day (`Instant.hasDayBounds`).
-/

namespace EnrollmentDesk

/-- A moment, by its place: each second since the start of 1970 has `ticksPerSecond`. -/
structure Instant where
  ticks : Int
deriving DecidableEq

/-- A time zone without daylight saving: less than a day east or west. -/
structure Offset where
  seconds : Int
  above : -86400 < seconds
  below : seconds < 86400
deriving DecidableEq

/-- Nanoseconds per second. -/
def nanosPerSecond : Int := 1000000000

/-- Places per second: a leap second fills the second half. -/
def ticksPerSecond : Int := 2000000000

/-- Seconds per day. -/
def secondsPerDay : Int := 86400

namespace Offset

/-- Universal time. -/
def utc : Offset := ⟨0, by decide, by decide⟩

/-- The offset of so many seconds east, if it is less than a day. -/
def ofSeconds? (s : Int) : Option Offset :=
  if h : -86400 < s ∧ s < 86400 then some ⟨s, h.1, h.2⟩ else none

end Offset

/-- The instant so many nanoseconds after the start of a second. -/
def Instant.ofSecond (second : Int) (nano : Nat) : Instant :=
  ⟨second * ticksPerSecond + nano⟩

/-- The first instant of a day in a time zone. -/
def Day.start (d : Day) (zone : Offset) : Instant :=
  .ofSecond (d.number * secondsPerDay - zone.seconds) 0

namespace Instant

instance : LE Instant := ⟨fun a b => a.ticks ≤ b.ticks⟩

instance : LT Instant := ⟨fun a b => a.ticks < b.ticks⟩

instance (a b : Instant) : Decidable (a ≤ b) := inferInstanceAs (Decidable (a.ticks ≤ b.ticks))

instance (a b : Instant) : Decidable (a < b) := inferInstanceAs (Decidable (a.ticks < b.ticks))

/-- The second of an instant. -/
def second (t : Instant) : Int :=
  t.ticks / ticksPerSecond

/-- The nanoseconds since the second of an instant began. -/
def nano (t : Instant) : Nat :=
  (t.ticks % ticksPerSecond).toNat

/-- The instant is in a leap second. -/
def isLeap (t : Instant) : Bool :=
  nanosPerSecond ≤ t.nano

/-- The instant so many seconds later. Who leaves a leap second forwards starts at the second it
prolongs, and who leaves it backwards at the second after it. -/
def plusSeconds (t : Instant) (s : Int) : Instant :=
  if !t.isLeap || s = 0 then ⟨t.ticks + s * ticksPerSecond⟩
  else if 0 < s then ⟨t.ticks - nanosPerSecond + s * ticksPerSecond⟩
  else ⟨t.ticks + nanosPerSecond + s * ticksPerSecond⟩

/-- The second that a clock in the zone shows, counted from the start of its 1970. -/
def localSecond (t : Instant) (zone : Offset) : Int :=
  t.second + zone.seconds

/-- The calendar day of an instant in a time zone. -/
def localDay (t : Instant) (zone : Offset) : Day :=
  ⟨t.localSecond zone / secondsPerDay⟩

/-- The seconds since local midnight. -/
def secondOfDay (t : Instant) (zone : Offset) : Nat :=
  (t.localSecond zone % secondsPerDay).toNat

/-- Whether two instants fall on the same calendar day of the zone. -/
def sameDay (a b : Instant) (zone : Offset) : Bool :=
  a.localDay zone = b.localDay zone

/-- The first instant with a date that can be stored. -/
def earliest : Instant := Day.start (CivilDate.toDay ⟨-262143, 1, 1⟩) .utc

/-- The first instant after all that can be stored. -/
def tooLate : Instant := Day.start (CivilDate.toDay ⟨262143, 1, 1⟩) .utc

/-- An instant with a date that can be stored. -/
def isRepresentable (t : Instant) : Bool :=
  earliest ≤ t && t < tooLate

/-- The calendar day of an instant as a range of instants, the first included and the second not. A
day that began before the first instant that can be stored begins with the instant itself. -/
def dayBounds (t : Instant) (zone : Offset) : Instant × Instant :=
  let midnight := (t.localDay zone).start zone
  let start := if midnight.isRepresentable then midnight else t
  (start, start.plusSeconds secondsPerDay)

/-- The calendar day of an instant has a date that can be stored, and its range an end that can. -/
def hasDayBounds (t : Instant) (zone : Offset) : Bool :=
  ((t.localDay zone).start .utc).isRepresentable && (t.dayBounds zone).2.isRepresentable

/-- Seconds in the longest duration, which has the largest signed 64-bit number of milliseconds. -/
def longestSeconds : Int := 9223372036854775

/-- The instant so many minutes later, if the duration and the sum can be stored. -/
def afterMinutes? (t : Instant) (minutes : Int) : Option Instant :=
  let s := 60 * minutes
  let later := t.plusSeconds s
  if -longestSeconds ≤ s && s ≤ longestSeconds && later.isRepresentable then some later else none

end Instant

end EnrollmentDesk
