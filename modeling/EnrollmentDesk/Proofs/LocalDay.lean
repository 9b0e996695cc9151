import EnrollmentDesk.Calendar.Instant

/-!
# Local days as ranges of instants

A local day is known in two ways: as the day that a clock in the zone shows (`Instant.localDay`),
and as a range of instants (`Instant.dayBounds`). Both say the same of every instant, leap seconds
included, since an instant is on a day exactly if its second is, and a day is a whole number of
seconds (`Instant.mem_dayBounds_iff`).

This needs a day that begins with an instant that can be stored (`Instant.HasDay`). The range of any
other day begins with the instant it was asked for, so it leaves out what came before on that day.
-/

namespace EnrollmentDesk

namespace Day

variable {d : Day} {zone : Offset} {t : Instant}

/-- The day after. -/
def next (d : Day) : Day :=
  ⟨d.number + 1⟩

@[simp] theorem next_number (d : Day) : d.next.number = d.number + 1 := rfl

theorem start_ticks (d : Day) (zone : Offset) :
    (d.start zone).ticks = (d.number * secondsPerDay - zone.seconds) * ticksPerSecond :=
  Int.add_zero _

/-- A day has begun once its first second has. -/
theorem start_le_iff : d.start zone ≤ t ↔ d.number * secondsPerDay ≤ t.localSecond zone := by
  change (d.start zone).ticks ≤ t.ticks ↔ _
  rw [start_ticks]
  unfold Instant.localSecond Instant.second secondsPerDay ticksPerSecond
  omega

theorem lt_start_iff : t < d.start zone ↔ t.localSecond zone < d.number * secondsPerDay := by
  have begun : (d.start zone).ticks ≤ t.ticks ↔ _ := start_le_iff
  change t.ticks < (d.start zone).ticks ↔ _
  omega

/-- An instant is on a day if the day has begun and the next one has not. -/
theorem eq_localDay_iff : t.localDay zone = d ↔ d.start zone ≤ t ∧ t < d.next.start zone := by
  have number : t.localDay zone = d ↔ t.localSecond zone / secondsPerDay = d.number := by
    cases d
    rw [Instant.localDay, Day.mk.injEq]
  rw [number, start_le_iff, lt_start_iff, next_number]
  unfold secondsPerDay
  omega

/-- A day ends where the next one begins: no midnight is in a leap second. -/
theorem plusSeconds_start (d : Day) (zone : Offset) :
    (d.start zone).plusSeconds secondsPerDay = d.next.start zone := by
  have whole : (d.start zone).isLeap = false := by
    unfold Instant.isLeap Instant.nano
    rw [start_ticks, Int.mul_emod_left]
    rfl
  unfold Instant.plusSeconds
  rw [whole, Bool.not_false, Bool.true_or, if_pos rfl]
  apply congrArg Instant.mk
  change _ = (d.next.start zone).ticks
  calc (d.start zone).ticks + secondsPerDay * ticksPerSecond
    _ = (d.number * secondsPerDay - zone.seconds + secondsPerDay) * ticksPerSecond := by
      rw [start_ticks, Int.add_mul]
    _ = (d.next.number * secondsPerDay - zone.seconds) * ticksPerSecond := by
      have h : (d.number + 1) * secondsPerDay = d.number * secondsPerDay + secondsPerDay := by
        rw [Int.add_mul, Int.one_mul]
      rw [next_number, h]
      congr 1
      omega
    _ = (d.next.start zone).ticks := (start_ticks _ _).symm

end Day

namespace Instant

/-- The calendar day of an instant begins with an instant that can be stored. -/
def HasDay (t : Instant) (zone : Offset) : Prop :=
  ((t.localDay zone).start zone).isRepresentable = true

instance (t : Instant) (zone : Offset) : Decidable (t.HasDay zone) :=
  inferInstanceAs (Decidable (_ = true))

variable {t x : Instant} {zone : Offset}

theorem sameDay_iff : x.sameDay t zone = true ↔ x.localDay zone = t.localDay zone :=
  decide_eq_true_iff

theorem dayBounds_eq (h : t.HasDay zone) :
    t.dayBounds zone = ((t.localDay zone).start zone, (t.localDay zone).next.start zone) := by
  have begins : ((t.localDay zone).start zone).isRepresentable = true := h
  unfold dayBounds
  dsimp only
  rw [begins, if_pos rfl, Day.plusSeconds_start]

/-- **The range of a day holds exactly the instants of that day.** -/
theorem mem_dayBounds_iff (h : t.HasDay zone) :
    (t.dayBounds zone).1 ≤ x ∧ x < (t.dayBounds zone).2 ↔ x.sameDay t zone = true := by
  rw [dayBounds_eq h, sameDay_iff, Day.eq_localDay_iff]

end Instant

end EnrollmentDesk
