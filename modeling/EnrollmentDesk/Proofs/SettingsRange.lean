import EnrollmentDesk.Proofs.Account
import EnrollmentDesk.Proofs.InRange
import EnrollmentDesk.Proofs.TimeZone

/-!
# Numbers in accepted settings

Two numbers of the settings are calculated with: the offset of the time zone, which is multiplied to
seconds, and the lifetime of link codes, which is added to the time. Their fields are signed integers
of 32 and 64 bits, and the check of the settings looks at both before anything is calculated.

It suffices for the offset, once it has been looked at: an accepted offset is less than a day, and so
is its number of seconds. But to look at it takes its absolute value, and the smallest integer of the
field has none. Of the lifetime the check asks only that it is positive, so a code can be made to be
good beyond the last date there is. Both are the only exceptions, and
`Settings.numbers_are_safe` says exactly when they arise.

## Main statements

* `Settings.check_eq_outOfRange_iff` — when the check itself leaves its range;
* `Instant.afterMinutes?_of_isCurrent` — what a lifetime comes to, from any time that clocks show;
* `Settings.numbers_are_safe` — the two together, for all that is calculated.
-/

namespace EnrollmentDesk

/-! ### The check -/

/-- One check after another fails where the first fault is. -/
theorem check_then_eq_error_iff {x y : Except Error Unit} {e : Error} :
    (x >>= fun _ => y) = .error e ↔ x = .error e ∨ (x = .ok () ∧ y = .error e) := by
  cases x with
  | error e' => exact ⟨fun h => .inl h, fun h => h.elim id fun h => nomatch h.1⟩
  | ok => exact ⟨fun h => .inr ⟨rfl, h⟩, fun h => h.elim (nomatch ·) And.right⟩

theorem require_ne_outOfRange (condition : Bool) (fault : SettingsFault) :
    require condition fault ≠ .error .outOfRange := by
  unfold require
  cases condition <;> exact (nomatch ·)

/-- The bot's settings have no numbers to calculate with. -/
theorem BotSettings.check_ne_outOfRange (s : BotSettings) : s.check ≠ .error .outOfRange := by
  refine bind_ne_error (require_ne_outOfRange _ _) fun _ =>
    bind_ne_error (require_ne_outOfRange _ _) fun _ => ?_
  split
  · exact (nomatch ·)
  · split <;> exact (nomatch ·)

theorem DatabaseSettings.check_ne_outOfRange (s : DatabaseSettings) :
    s.check ≠ .error .outOfRange :=
  bind_ne_error (require_ne_outOfRange _ _) fun _ =>
    bind_ne_error (require_ne_outOfRange _ _) fun _ => require_ne_outOfRange _ _

theorem LogSettings.check_ne_outOfRange (s : LogSettings) : s.check ≠ .error .outOfRange :=
  bind_ne_error (require_ne_outOfRange _ _) fun _ => require_ne_outOfRange _ _

/-- The numbers are such as the fields can hold. -/
structure EnrollmentSettings.IsTyped (s : EnrollmentSettings) : Prop where
  offset : Range.signed32.contains s.offsetMinutes = true
  lifetime : Range.signed64.contains s.linkCodeMinutes = true

namespace EnrollmentSettings

variable {s : EnrollmentSettings}

/-- The smallest number of the field is the only one without an absolute value. -/
theorem IsTyped.abs_iff (typed : s.IsTyped) :
    Range.signed32.contains s.offsetMinutes.natAbs = true ↔ s.offsetMinutes ≠ -2147483648 := by
  have hoffset := typed.offset
  unfold Range.contains Range.signed32 at hoffset ⊢
  simp only [Bool.and_eq_true, decide_eq_true_eq] at hoffset ⊢
  omega

theorem check_eq_outOfRange_iff (typed : s.IsTyped) :
    s.check = .error .outOfRange ↔ s.offsetMinutes = -2147483648 := by
  have hsmallest : s.offsetMinutes = -2147483648 ↔
      ¬ Range.signed32.contains s.offsetMinutes.natAbs = true := by
    rw [typed.abs_iff, not_ne_iff]
  rw [hsmallest]
  unfold check
  dsimp only
  by_cases hrange : Range.signed32.contains s.offsetMinutes.natAbs = true
  · rw [if_neg (by rw [hrange]; decide)]
    refine ⟨fun h => absurd h ?_, fun h => absurd hrange h⟩
    exact bind_ne_error (require_ne_outOfRange _ _) fun _ =>
      bind_ne_error (require_ne_outOfRange _ _) fun _ =>
        bind_ne_error (require_ne_outOfRange _ _) fun _ => require_ne_outOfRange _ _
  · rw [if_pos (by rw [Bool.eq_false_iff.2 hrange]; rfl)]
    exact ⟨fun _ => hrange, fun _ => rfl⟩

/-- An offset of less than a day has a time zone, so many seconds east. -/
theorem IsSound.zone_eq (sound : s.IsSound) :
    ∃ zone, s.zone = .ok zone ∧ zone.seconds = 60 * s.offsetMinutes :=
  exists_zone sound.offset

end EnrollmentSettings

/-- **The check leaves its range** exactly if it comes to an offset without an absolute value. -/
theorem Settings.check_eq_outOfRange_iff {s : Settings} (typed : s.enrollment.IsTyped) :
    s.check = .error .outOfRange ↔ s.bot.check = .ok () ∧ s.database.check = .ok () ∧
      s.enrollment.offsetMinutes = -2147483648 := by
  unfold check
  rw [check_then_eq_error_iff, check_then_eq_error_iff, check_then_eq_error_iff,
    EnrollmentSettings.check_eq_outOfRange_iff typed]
  -- only the rules of enrollment can leave the range
  simp only [s.bot.check_ne_outOfRange, s.database.check_ne_outOfRange,
    s.log.check_ne_outOfRange, false_or, and_false, or_false]

/-! ### Times to come -/

namespace Instant

/-- The first instant of a year. -/
def ofYear (year : Int) : Instant :=
  Day.start (CivilDate.toDay ⟨year, 1, 1⟩) .utc

/-- An instant of the years 1970 to 9999. -/
def IsCurrent (t : Instant) : Prop :=
  ofYear 1970 ≤ t ∧ t < ofYear 10000

instance (t : Instant) : Decidable t.IsCurrent := inferInstanceAs (Decidable (_ ∧ _))

variable {t : Instant} {s minutes : Int}

/-- Some seconds later: the second is so much later, at the same place within it. A leap second that
is left counts as the second before it. -/
theorem second_plusSeconds (pos : 0 < s) : (t.plusSeconds s).second = t.second + s := by
  unfold plusSeconds isLeap nano second nanosPerSecond ticksPerSecond
  have hs : s ≠ 0 := by omega
  simp only [hs, decide_false, Bool.or_false, Bool.not_eq_true', decide_eq_false_iff_not, pos,
    if_true]
  split <;> dsimp only <;> omega

theorem nano_plusSeconds (pos : 0 < s) :
    ((t.plusSeconds s).nano : Int) = t.nano % nanosPerSecond := by
  unfold plusSeconds isLeap nano nanosPerSecond ticksPerSecond
  have hs : s ≠ 0 := by omega
  simp only [hs, decide_false, Bool.or_false, Bool.not_eq_true', decide_eq_false_iff_not, pos,
    if_true]
  split <;> dsimp only <;> omega

theorem lt_of_second_lt {a b : Instant} (h : a.second < b.second) : a < b := by
  change a.ticks < b.ticks
  unfold second ticksPerSecond at h
  omega

theorem lt_tooLate_iff : t < tooLate ↔ t.second < tooLate.second := by
  have hticks : tooLate.ticks = tooLate.second * ticksPerSecond := by decide
  change t.ticks < tooLate.ticks ↔ _
  rw [hticks]
  unfold second ticksPerSecond
  omega

theorem IsCurrent.second_nonneg (h : t.IsCurrent) : 0 ≤ t.second := by
  have hticks : 0 ≤ t.ticks := h.1
  unfold second ticksPerSecond
  omega

theorem IsCurrent.second_lt (h : t.IsCurrent) : t.second < (ofYear 10000).second := by
  have hticks : t.ticks < (ofYear 10000).second * ticksPerSecond := h.2
  unfold second at hticks ⊢
  unfold ticksPerSecond at hticks ⊢
  omega

/-- **What a lifetime comes to** now: the end of it, unless that is past the last date there is. No
duration is too long by itself. -/
theorem afterMinutes?_of_isCurrent (current : t.IsCurrent) (pos : 0 < minutes) :
    t.afterMinutes? minutes =
      if t.second + 60 * minutes < tooLate.second then some (t.plusSeconds (60 * minutes))
      else none := by
  have hpos : 0 < 60 * minutes := by omega
  have hlater : (t.plusSeconds (60 * minutes)).second = t.second + 60 * minutes :=
    second_plusSeconds hpos
  have hnow := current.second_nonneg
  have hlast : tooLate.second = 8210266876800 := by decide
  have hlongest : longestSeconds = 9223372036854775 := rfl
  have hbegun : earliest ≤ t.plusSeconds (60 * minutes) := by
    have hlt : earliest < t.plusSeconds (60 * minutes) := by
      refine lt_of_second_lt ?_
      have hfirst : earliest.second < 0 := by decide
      omega
    exact Int.le_of_lt hlt
  have hends : t.plusSeconds (60 * minutes) < tooLate ↔
      t.second + 60 * minutes < tooLate.second := by
    rw [lt_tooLate_iff, hlater]
  unfold afterMinutes? isRepresentable
  dsimp only
  by_cases hfits : t.second + 60 * minutes < tooLate.second
  · rw [if_pos hfits, if_pos]
    simp only [Bool.and_eq_true, decide_eq_true_eq]
    exact ⟨⟨by omega, by omega⟩, hbegun, hends.2 hfits⟩
  · rw [if_neg hfits, if_neg]
    simp only [Bool.and_eq_true, decide_eq_true_eq]
    exact fun h => hfits (hends.1 h.2.2)

end Instant

/-- The longest lifetime of link codes that can be added to every time of the years 1970 to 9999, in
minutes: as far as from the end of these to the last date there is. -/
def EnrollmentSettings.longestLifetime : Int :=
  (Instant.tooLate.second - (Instant.ofYear 10000).second) / 60

/-! ### Issuing link codes -/

namespace Service

variable {office : Office} {d : Desk} {parentId : Int}

/-- **When a request for a link code leaves the range**: if there would be a code to issue, but it
would be good beyond the last date there is. -/
theorem issueLinkCode_eq_outOfRange_iff (current : d.now.IsCurrent)
    (pos : 0 < office.settings.enrollment.linkCodeMinutes) :
    (runOn (issueLinkCode office parentId) d).1 = .error .outOfRange ↔
      d.online = true ∧ d.store.parents.contains parentId = true ∧
        Instant.tooLate.second ≤
          d.now.second + 60 * office.settings.enrollment.linkCodeMinutes := by
  have hafter := Instant.afterMinutes?_of_isCurrent current pos
  cases online : d.online with
  | false =>
    rw [runOn_issueLinkCode_of_offline online]
    exact ⟨(nomatch ·), fun h => nomatch h.1⟩
  | true =>
    cases there : d.store.parents.contains parentId with
    | false =>
      rw [runOn_issueLinkCode_of_unknown online there]
      exact ⟨(nomatch ·), fun h => nomatch h.2.1⟩
    | true =>
      by_cases fits : d.now.second + 60 * office.settings.enrollment.linkCodeMinutes <
          Instant.tooLate.second
      · rw [if_pos fits] at hafter
        refine ⟨fun h => ?_, fun h => absurd fits (Int.not_lt.2 h.2.2)⟩
        have hissues := issues office d parentId
        rw [h] at hissues
        generalize (runOn (issueLinkCode office parentId) d).2 = t at hissues
        cases hissues with
        | endless none => exact nomatch hafter.symm.trans none
      · rw [if_neg fits] at hafter
        rw [runOn_issueLinkCode_of_endless online there hafter]
        exact ⟨fun _ => ⟨rfl, rfl, Int.not_lt.1 fits⟩, fun _ => rfl⟩

/-- A link code that is issued is good for exactly as long as the settings say. -/
theorem expiresAt_of_issued (current : d.now.IsCurrent)
    (pos : 0 < office.settings.enrollment.linkCodeMinutes) {code : LinkCode}
    (issued : (runOn (issueLinkCode office parentId) d).1 = .ok code) :
    code.expiresAt.second = d.now.second + 60 * office.settings.enrollment.linkCodeMinutes ∧
      (code.expiresAt.nano : Int) = d.now.nano % nanosPerSecond ∧ d.now < code.expiresAt := by
  have hpos : 0 < 60 * office.settings.enrollment.linkCodeMinutes := by omega
  have hafter := Instant.afterMinutes?_of_isCurrent current pos
  have hissues := issues office d parentId
  rw [issued] at hissues
  generalize (runOn (issueLinkCode office parentId) d).2 = t at hissues
  cases hissues with
  | @issued expiresAt i due there within free first =>
    have hexpires : (d.issuedCode parentId expiresAt i).expiresAt =
        d.now.plusSeconds (60 * office.settings.enrollment.linkCodeMinutes) := by
      rw [hafter] at due
      split at due
      · exact (Option.some.inj due).symm
      · exact nomatch due
    have hsecond := Instant.second_plusSeconds (t := d.now) hpos
    rw [hexpires]
    exact ⟨hsecond, Instant.nano_plusSeconds hpos, Instant.lt_of_second_lt (by omega)⟩

end Service

/-- The last whole second of the year 9999. -/
def Instant.lastCurrent : Instant :=
  .ofSecond ((ofYear 10000).second - 1) 0

/-- A desk that knows one parent, at a time. -/
def Desk.knowingParent (now : Instant) : Desk where
  store := ({} : Store).addParent ⟨1, "Eve", "+628110000001", none, ⟨0⟩, ⟨0⟩⟩
  now := now
  draws := ⟨fun _ => ⟨0, by decide⟩, 0⟩

/-- **Which lifetimes can always be worked with.** -/
theorem Service.issueLinkCode_ne_outOfRange_iff (office : Office)
    (pos : 0 < office.settings.enrollment.linkCodeMinutes) :
    (∀ d : Desk, d.now.IsCurrent → ∀ parentId,
        (runOn (issueLinkCode office parentId) d).1 ≠ .error .outOfRange) ↔
      office.settings.enrollment.linkCodeMinutes ≤ EnrollmentSettings.longestLifetime := by
  have hlongest : EnrollmentSettings.longestLifetime = 132614409600 := by decide
  have hlast : Instant.tooLate.second = 8210266876800 := by decide
  have hyear : (Instant.ofYear 10000).second = 253402300800 := by decide
  constructor
  · intro h
    have current : (Desk.knowingParent Instant.lastCurrent).now.IsCurrent := by decide
    have hnow : (Desk.knowingParent Instant.lastCurrent).now.second = 253402300799 := by decide
    have hne := h (.knowingParent Instant.lastCurrent) current 1
    rw [ne_eq, issueLinkCode_eq_outOfRange_iff current pos] at hne
    by_contra hlong
    exact hne ⟨rfl, rfl, by omega⟩
  · intro h d current parentId
    have hnow := current.second_lt
    rw [ne_eq, issueLinkCode_eq_outOfRange_iff current pos]
    exact fun hout => by have hend := hout.2.2; omega

/-- **What is calculated from settings.** The check of settings leaves its range only at the smallest
offset there is. Whenever it passes, the offset is less than a day and the zone is exactly so far
east. A link code that is issued is then good for exactly the lifetime, and none is issued only if
that ends beyond the last date there is; which cannot happen in the years 1970 to 9999 exactly if the
lifetime is at most `EnrollmentSettings.longestLifetime`. -/
theorem Settings.numbers_are_safe (s : Settings) (typed : s.enrollment.IsTyped) :
    (s.check = .error .outOfRange ↔ s.bot.check = .ok () ∧ s.database.check = .ok () ∧
      s.enrollment.offsetMinutes = -2147483648) ∧
    (s.check = .ok () →
      s.enrollment.offsetMinutes.natAbs < 1440 ∧
      (∃ zone, s.enrollment.zone = .ok zone ∧ zone.seconds = 60 * s.enrollment.offsetMinutes) ∧
      ∀ office : Office, office.settings = s →
        (∀ d : Desk, d.now.IsCurrent → ∀ parentId,
          ((runOn (Service.issueLinkCode office parentId) d).1 = .error .outOfRange ↔
            d.online = true ∧ d.store.parents.contains parentId = true ∧
              Instant.tooLate.second ≤ d.now.second + 60 * s.enrollment.linkCodeMinutes) ∧
          ∀ code, (runOn (Service.issueLinkCode office parentId) d).1 = .ok code →
            code.expiresAt.second = d.now.second + 60 * s.enrollment.linkCodeMinutes ∧
            (code.expiresAt.nano : Int) = d.now.nano % nanosPerSecond ∧
            d.now < code.expiresAt) ∧
        ((∀ d : Desk, d.now.IsCurrent → ∀ parentId,
            (runOn (Service.issueLinkCode office parentId) d).1 ≠ .error .outOfRange) ↔
          s.enrollment.linkCodeMinutes ≤ EnrollmentSettings.longestLifetime)) := by
  refine ⟨check_eq_outOfRange_iff typed, fun accepted => ?_⟩
  obtain ⟨-, -, sound, -⟩ := Settings.check_eq_ok_iff.1 accepted
  refine ⟨sound.offset, sound.zone_eq, ?_⟩
  rintro office rfl
  refine ⟨fun d current parentId => ⟨?_, fun code issued => ?_⟩, ?_⟩
  · exact Service.issueLinkCode_eq_outOfRange_iff current sound.lifetime
  · exact Service.expiresAt_of_issued current sound.lifetime issued
  · exact Service.issueLinkCode_ne_outOfRange_iff office sound.lifetime

namespace Sample

/-- Settings that are in order but perhaps for two numbers. -/
def numbered (offsetMinutes linkCodeMinutes : Int) : Settings where
  bot := { token := "token", adminIds := [1] }
  enrollment := { offsetMinutes, linkCodeMinutes }

/-- The office under such settings. -/
def numberedOffice (offsetMinutes linkCodeMinutes : Int) : Office :=
  { office with settings := numbered offsetMinutes linkCodeMinutes }

/-- The zone farthest west and the longest lifetime can be worked with. -/
theorem longest_lifetime_is_safe :
    (numbered (-1439) 132614409600).enrollment.IsTyped ∧
      (numbered (-1439) 132614409600).check = .ok () ∧
      ∀ d : Desk, d.now.IsCurrent → ∀ parentId,
        (runOn (Service.issueLinkCode (numberedOffice (-1439) 132614409600) parentId) d).1 ≠
          .error .outOfRange := by
  have typed : (numbered (-1439) 132614409600).enrollment.IsTyped := ⟨by decide, by decide⟩
  have accepted : (numbered (-1439) 132614409600).check = .ok () := rfl
  obtain ⟨-, -, safe⟩ := (Settings.numbers_are_safe _ typed).2 accepted
  exact ⟨typed, accepted,
    (safe (numberedOffice (-1439) 132614409600) rfl).2.2 (by decide)⟩

/-- **Numbers that lead out of range**: the check cannot look at the smallest offset, and a lifetime
of 380000 years passes it but cannot be added to the time. -/
theorem numbers_lead_out_of_range :
    (numbered (-2147483648) 10).enrollment.IsTyped ∧
      (numbered (-2147483648) 10).check = .error .outOfRange ∧
      (numbered 420 200000000000).enrollment.IsTyped ∧
      (numbered 420 200000000000).check = .ok () ∧
      (Desk.knowingParent (.ofYear 2025)).now.IsCurrent ∧
      (runOn (Service.issueLinkCode (numberedOffice 420 200000000000) 1)
        (.knowingParent (.ofYear 2025))).1 = .error .outOfRange :=
  ⟨⟨by decide, by decide⟩, rfl, ⟨by decide, by decide⟩, rfl, by decide, rfl⟩

end Sample

end EnrollmentDesk
