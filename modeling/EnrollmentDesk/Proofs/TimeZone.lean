import EnrollmentDesk.Settings.Basic

/-!
# The time zone of the settings

The offset of the families is set in minutes and used in seconds. A zone is less than a day from
universal time, so most offsets have none, and universal time stands in for them. Before that is
seen, though, the offset in seconds has to be calculated, as a signed 32-bit number; and for offsets
beyond `EnrollmentSettings.farthestOffset` this number does not exist. Those have neither a zone of
their own nor universal time.
-/

namespace EnrollmentDesk

namespace EnrollmentSettings

variable {s : EnrollmentSettings} {zone : Offset}

/-- The farthest offset that has a signed 32-bit number of seconds, in minutes, either way. -/
def farthestOffset : Nat := 35791394

/-- The offset has a number of seconds. -/
theorem contains_seconds_iff :
    Range.signed32.contains (60 * s.offsetMinutes) = true ↔
      s.offsetMinutes.natAbs ≤ farthestOffset := by
  unfold Range.contains Range.signed32 farthestOffset
  simp only [Bool.and_eq_true, decide_eq_true_eq]
  omega

/-- An offset of seconds stands for itself if it is less than a day, and for none otherwise. -/
theorem getD_ofSeconds?_eq_iff {seconds : Int} :
    (Offset.ofSeconds? seconds).getD .utc = zone ↔
      zone.seconds = if seconds.natAbs < 86400 then seconds else 0 := by
  have hext : ∀ a b : Offset, a = b ↔ b.seconds = a.seconds := by
    rintro ⟨a, _, _⟩ ⟨b, _, _⟩
    rw [Offset.mk.injEq, eq_comm]
  unfold Offset.ofSeconds?
  by_cases near : -86400 < seconds ∧ seconds < 86400
  · rw [dif_pos near, Option.getD_some, hext, if_pos (by omega)]
  · rw [dif_neg near, Option.getD_none, hext, if_neg (by omega)]
    rfl

theorem zone_eq_ok_iff :
    s.zone = .ok zone ↔ s.offsetMinutes.natAbs ≤ farthestOffset ∧
      zone.seconds = if s.offsetMinutes.natAbs < 1440 then 60 * s.offsetMinutes else 0 := by
  have hday : (60 * s.offsetMinutes).natAbs < 86400 ↔ s.offsetMinutes.natAbs < 1440 := by omega
  unfold EnrollmentSettings.zone
  dsimp only
  rw [← contains_seconds_iff]
  split
  · next calculated =>
    rw [Except.ok.injEq, getD_ofSeconds?_eq_iff, and_iff_right calculated]
    simp only [hday]
  · next beyond => exact ⟨(nomatch ·), fun h => absurd h.1 beyond⟩

theorem zone_eq_error_iff :
    s.zone = .error .outOfRange ↔ farthestOffset < s.offsetMinutes.natAbs := by
  rw [← Nat.not_le, ← contains_seconds_iff]
  unfold EnrollmentSettings.zone
  dsimp only
  split
  · next calculated => exact ⟨(nomatch ·), fun h => absurd calculated h⟩
  · next beyond => exact ⟨fun _ => beyond, fun _ => rfl⟩

/-- An offset of less than a day has a zone of its own. -/
theorem exists_zone (near : s.offsetMinutes.natAbs < 1440) :
    ∃ zone, s.zone = .ok zone ∧ zone.seconds = 60 * s.offsetMinutes := by
  have hfar : 1440 ≤ farthestOffset := by decide
  refine ⟨⟨60 * s.offsetMinutes, by omega, by omega⟩, zone_eq_ok_iff.2 ⟨by omega, ?_⟩, rfl⟩
  rw [if_pos near]

/-- **Which zone an offset has**: its own exactly if it is less than a day. Universal time stands in
for it exactly if it is not, but still has a number of seconds. Beyond that there is no zone. -/
theorem zone_of_offset (s : EnrollmentSettings) :
    ((∃ zone, s.zone = .ok zone ∧ zone.seconds = 60 * s.offsetMinutes) ↔
      s.offsetMinutes.natAbs < 1440) ∧
    (s.zone = .ok .utc ↔ s.offsetMinutes = 0 ∨
      1440 ≤ s.offsetMinutes.natAbs ∧ s.offsetMinutes.natAbs ≤ farthestOffset) ∧
    (s.zone = .error .outOfRange ↔ farthestOffset < s.offsetMinutes.natAbs) := by
  refine ⟨⟨?_, exists_zone⟩, ?_, zone_eq_error_iff⟩
  · rintro ⟨zone, -, own⟩
    -- a zone is less than a day from universal time
    have habove := zone.above
    have hbelow := zone.below
    omega
  · have hfar : 1440 ≤ farthestOffset := by decide
    have hutc : Offset.utc.seconds = 0 := rfl
    rw [zone_eq_ok_iff, hutc]
    split <;> omega

end EnrollmentSettings

namespace Sample

/-- **The first offsets without a zone** are of 35791395 minutes. These are numbers of the field, and
more than a day, but universal time does not stand in for them. -/
theorem far_offset_has_no_zone :
    Range.signed32.contains 35791395 = true ∧ Range.signed32.contains (-35791395) = true ∧
      EnrollmentSettings.zone { offsetMinutes := 35791395 } = .error .outOfRange ∧
      EnrollmentSettings.zone { offsetMinutes := -35791395 } = .error .outOfRange :=
  ⟨by decide, by decide, rfl, rfl⟩

end Sample

end EnrollmentDesk
