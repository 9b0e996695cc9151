import EnrollmentDesk.Proofs.CivilDate

/-!
# The bounds of a day are a date

A chat shows the date of an instant (`Instant.localDate`), and a rule asks for the bounds of its day
(`Instant.dayBounds`). Between the bounds are exactly the instants that have the date, from the first
midnight on (`CivilDate.Spans`). So two ranges of the same zone are one or have nothing in common,
and where one ends the next date begins.

What an instant has to do with a range is said by the day (`Instant.mem_dayBounds_iff`), and days are
numbers here. The dates come in because each day has one of its own (`Day.date_inj`) and the day
after has the date after (`CivilDate.toDay_next`), through leap years and years before year 1 alike.
-/

namespace EnrollmentDesk

/-! ### Midnight -/

namespace Day

variable {d : Day} {zone : Offset} {x : Instant}

theorem localDay_start (d : Day) (zone : Offset) : (d.start zone).localDay zone = d := by
  refine eq_localDay_iff.2 ⟨Int.le_refl _, ?_⟩
  show (d.start zone).ticks < (d.next.start zone).ticks
  rw [start_ticks, start_ticks, next_number]
  unfold secondsPerDay ticksPerSecond
  omega

/-- A day begins when the clock shows midnight, to the nanosecond. -/
theorem eq_start_iff :
    x = d.start zone ↔ x.localDay zone = d ∧ x.secondOfDay zone = 0 ∧ x.nano = 0 := by
  constructor
  · rintro rfl
    refine ⟨localDay_start d zone, ?_, ?_⟩
    · unfold Instant.secondOfDay Instant.localSecond Instant.second
      rw [start_ticks]
      unfold secondsPerDay ticksPerSecond
      omega
    · unfold Instant.nano
      rw [start_ticks, Int.mul_emod_left]
      rfl
  · rintro ⟨rfl, midnight, whole⟩
    have hticks : x.ticks = ((x.localDay zone).start zone).ticks := by
      rw [start_ticks]
      unfold Instant.secondOfDay Instant.nano at *
      unfold Instant.localDay Instant.localSecond Instant.second secondsPerDay ticksPerSecond at *
      dsimp only at *
      omega
    exact congrArg Instant.mk hticks

end Day

/-! ### Dates and their ranges -/

namespace Instant

variable {t u x : Instant} {zone : Offset}

/-- The date that a calendar in the zone shows. -/
def localDate (t : Instant) (zone : Offset) : CivilDate :=
  (t.localDay zone).date

/-- The instant is in a range, of which the end is not a part. -/
def IsIn (x : Instant) (range : Instant × Instant) : Prop :=
  range.1 ≤ x ∧ x < range.2

theorem localDate_eq_iff :
    x.localDate zone = t.localDate zone ↔ x.localDay zone = t.localDay zone :=
  Day.date_inj

theorem sameDay_iff_localDate :
    x.sameDay t zone = true ↔ x.localDate zone = t.localDate zone := by
  rw [sameDay_iff, localDate_eq_iff]

end Instant

/-- A range of instants is that of a date in a time zone. -/
structure CivilDate.Spans (c : CivilDate) (zone : Offset) (range : Instant × Instant) : Prop where
  /-- The calendar has the date. -/
  valid : c.isValid = true
  /-- The range begins at midnight, and at no other moment of the date is it midnight. -/
  midnight : ∀ x : Instant,
    x = range.1 ↔ x.localDate zone = c ∧ x.secondOfDay zone = 0 ∧ x.nano = 0
  length : range.2.ticks = range.1.ticks + 86400 * ticksPerSecond
  mem_iff : ∀ x : Instant, x.IsIn range ↔ x.localDate zone = c

namespace Instant

variable {t u : Instant} {zone : Offset}

/-- **The bounds of a day are those of a date.** -/
theorem spans_dayBounds (day : t.HasDay zone) :
    (t.localDate zone).Spans zone (t.dayBounds zone) where
  valid := Day.isValid_date _
  midnight x := by
    rw [dayBounds_eq day, Day.eq_start_iff, localDate_eq_iff]
  length := by
    rw [dayBounds_eq day]
    show ((t.localDay zone).next.start zone).ticks = ((t.localDay zone).start zone).ticks + _
    rw [Day.start_ticks, Day.start_ticks, Day.next_number]
    unfold secondsPerDay ticksPerSecond
    omega
  mem_iff x := (mem_dayBounds_iff day).trans sameDay_iff_localDate

/-- **Where a day ends, the next date begins.** -/
theorem localDate_end (day : t.HasDay zone) :
    (t.dayBounds zone).2.localDate zone = (t.localDate zone).next := by
  rw [dayBounds_eq day]
  show (((t.localDay zone).next.start zone).localDay zone).date = (t.localDay zone).date.next
  rw [Day.localDay_start, Day.date_next]

/-- **The bounds of a day** of two instants are the same, or nothing is between both. -/
theorem dayBounds_eq_or_disjoint (day : t.HasDay zone) (day' : u.HasDay zone) :
    t.dayBounds zone = u.dayBounds zone ∨
      ∀ x : Instant, ¬ (x.IsIn (t.dayBounds zone) ∧ x.IsIn (u.dayBounds zone)) := by
  by_cases same : t.localDay zone = u.localDay zone
  · left
    rw [dayBounds_eq day, dayBounds_eq day', same]
  · right
    rintro x ⟨ht, hu⟩
    have hxt := sameDay_iff.1 ((mem_dayBounds_iff day).1 ht)
    have hxu := sameDay_iff.1 ((mem_dayBounds_iff day').1 hu)
    exact same (hxt.symm.trans hxu)

/-- **The bounds of a day are exact.** They frame the instant, and the range between them is that of
its date: from midnight for 86400 seconds, with all that is on the same day and nothing else. Ranges
of two instants are the same or apart, and that of the next date begins where this one ends. -/
theorem bounds_are_exact (day : t.HasDay zone) :
    t.IsIn (t.dayBounds zone) ∧
      (t.localDate zone).Spans zone (t.dayBounds zone) ∧
      (∀ x : Instant, x.IsIn (t.dayBounds zone) ↔ x.sameDay t zone = true) ∧
      (∀ u : Instant, u.HasDay zone → t.dayBounds zone = u.dayBounds zone ∨
        ∀ x : Instant, ¬ (x.IsIn (t.dayBounds zone) ∧ x.IsIn (u.dayBounds zone))) ∧
      (t.dayBounds zone).2.localDate zone = (t.localDate zone).next ∧
      ∀ u : Instant, u.HasDay zone → u.localDate zone = (t.localDate zone).next →
        (u.dayBounds zone).1 = (t.dayBounds zone).2 := by
  refine ⟨(mem_dayBounds_iff day).2 (sameDay_iff.2 rfl), spans_dayBounds day,
    fun x => mem_dayBounds_iff day, fun u day' => dayBounds_eq_or_disjoint day day',
    localDate_end day, fun u day' next => ?_⟩
  have hday : u.localDay zone = (t.localDay zone).next :=
    Day.date_inj.1 (next.trans (Day.date_next _).symm)
  rw [dayBounds_eq day, dayBounds_eq day', hday]

end Instant

namespace Sample

/-- A moment in the night of a leap day, in the fourth year before year 0. -/
def leapNight : Instant :=
  .ofSecond ((CivilDate.toDay ⟨-4, 2, 29⟩).number * secondsPerDay + 30000) 7

/-- A zone in the west, with an offset to the second. -/
def west : Offset :=
  ⟨-27015, by decide, by decide⟩

/-- The range of a leap day ends where March begins. -/
theorem leap_night_is_bounded :
    leapNight.HasDay west ∧ leapNight.IsIn (leapNight.dayBounds west) ∧
      leapNight.localDate west = ⟨-4, 2, 29⟩ ∧
      (leapNight.dayBounds west).2.localDate west = ⟨-4, 3, 1⟩ := by
  have day : leapNight.HasDay west := by decide
  obtain ⟨within, -, -, -, ends, -⟩ := Instant.bounds_are_exact day
  refine ⟨day, within, by decide, ?_⟩
  rw [ends]
  decide

end Sample

end EnrollmentDesk
