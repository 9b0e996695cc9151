import EnrollmentDesk.Settings.Check

/-!
# Accepted settings

What is known of settings that have passed their check (`Settings.check`). The parts are checked one
after another, so settings that pass have parts that pass (`Settings.check_eq_ok_iff`); and the
rules of enrollment pass exactly if their offset, code word, attempts and lifetime are in order
(`EnrollmentSettings.check_eq_ok_iff`).
-/

namespace EnrollmentDesk

theorem bind_eq_ok_iff {α β : Type} {x : Except Error α} {f : α → Except Error β} {b : β} :
    (x >>= f) = .ok b ↔ ∃ a, x = .ok a ∧ f a = .ok b := by
  cases x with
  | error e => exact ⟨(nomatch ·), fun ⟨_, h, _⟩ => nomatch h⟩
  | ok a => exact ⟨fun h => ⟨a, rfl, h⟩, fun ⟨_, ha, h⟩ => (Except.ok.inj ha) ▸ h⟩

/-- One check after another passes if both do. -/
theorem check_then_eq_ok_iff {x y : Except Error Unit} :
    (x >>= fun _ => y) = .ok () ↔ x = .ok () ∧ y = .ok () := by
  rw [bind_eq_ok_iff]
  exact ⟨fun ⟨_, hx, hy⟩ => ⟨hx, hy⟩, fun ⟨hx, hy⟩ => ⟨(), hx, hy⟩⟩

theorem require_eq_ok_iff {condition : Bool} {fault : SettingsFault} :
    require condition fault = .ok () ↔ condition = true := by
  unfold require
  cases condition with
  | false => exact ⟨(nomatch ·), (nomatch ·)⟩
  | true => exact ⟨fun _ => rfl, fun _ => rfl⟩

/-- Rules of enrollment that can be worked with. -/
structure EnrollmentSettings.IsSound (s : EnrollmentSettings) : Prop where
  /-- The offset is less than a day. -/
  offset : s.offsetMinutes.natAbs < 1440
  word_ne : s.codeWord ≠ ""
  /-- The code word has ASCII letters and digits only. -/
  word : s.codeWord.toList.all Char.isAlphanum = true
  attempts : s.codeAttempts ≠ 0
  lifetime : 0 < s.linkCodeMinutes

/-- **The rules of enrollment pass their check** exactly if they are sound. -/
theorem EnrollmentSettings.check_eq_ok_iff {s : EnrollmentSettings} :
    s.check = .ok () ↔ s.IsSound := by
  unfold check
  dsimp only
  by_cases hrange : Range.signed32.contains s.offsetMinutes.natAbs = true
  · rw [if_neg (by rw [hrange]; decide), check_then_eq_ok_iff, check_then_eq_ok_iff,
      check_then_eq_ok_iff, require_eq_ok_iff, require_eq_ok_iff, require_eq_ok_iff,
      require_eq_ok_iff, Bool.and_eq_true, decide_eq_true_eq, decide_eq_true_eq, decide_eq_true_eq,
      decide_eq_true_eq]
    exact ⟨fun ⟨offset, ⟨word_ne, word⟩, attempts, lifetime⟩ =>
        ⟨offset, word_ne, word, attempts, lifetime⟩,
      fun h => ⟨h.offset, ⟨h.word_ne, h.word⟩, h.attempts, h.lifetime⟩⟩
  · rw [if_pos (by rw [Bool.eq_false_iff.2 hrange]; rfl)]
    refine ⟨(nomatch ·), fun h => absurd ?_ hrange⟩
    -- an offset of less than a day has an absolute value
    have hoffset := h.offset
    unfold Range.contains Range.signed32
    simp only [Bool.and_eq_true, decide_eq_true_eq]
    omega

/-- **Settings pass their check** exactly if their parts do. -/
theorem Settings.check_eq_ok_iff {s : Settings} :
    s.check = .ok () ↔
      s.bot.check = .ok () ∧ s.database.check = .ok () ∧ s.enrollment.IsSound ∧
        s.log.check = .ok () := by
  unfold check
  rw [check_then_eq_ok_iff, check_then_eq_ok_iff, check_then_eq_ok_iff,
    EnrollmentSettings.check_eq_ok_iff]

end EnrollmentDesk
