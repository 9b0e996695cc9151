import EnrollmentDesk.Proofs.LocalDay

/-!
# Days and their dates

Days are numbered without a gap, and the calendar has its dates; `Day.date` and `CivilDate.toDay` go
from one to the other. They undo each other, so each day has one date of the calendar and each date
of the calendar is that of one day, and the day after has the next date (`CivilDate.toDay_next`).

Both go by way of a year that begins in March and a day of it, counted from zero
(`CivilDate.IsYearDay`). That such a year has its leap day at the end makes the rest short. Years
before it in an era and days before it in a year are linear but for the roundings, and the months
repeat their lengths every five.

The crux is which year of an era a day is in (`CivilDate.yearOfEra_eq`). The days without leap days
would be divided by 365. So one is taken off for every 1460 days, given back for every 36524 and
taken off again on the very last one. This is one too few or too many at times, but never so many
that the year is another.
-/

namespace EnrollmentDesk

namespace CivilDate

variable {c : CivilDate} {y n year : Int}

theorem isLeapYear_iff : isLeapYear y = true ↔ y % 4 = 0 ∧ (y % 100 ≠ 0 ∨ y % 400 = 0) := by
  unfold isLeapYear
  simp only [Bool.and_eq_true, Bool.or_eq_true, decide_eq_true_eq]

/-! ### Years of an era -/

/-- The year has the day `n`, counted from zero. Years begin in March. -/
structure IsYearDay (year n : Int) : Prop where
  nonneg : 0 ≤ n
  le : n ≤ 365
  /-- The last February day of a leap year. -/
  leap : n = 365 → isLeapYear (year + 1) = true

theorem isYearDay_iff :
    IsYearDay year n ↔ 0 ≤ n ∧ n ≤ 365 ∧ (n = 365 → isLeapYear (year + 1) = true) :=
  ⟨fun h => ⟨h.nonneg, h.le, h.leap⟩, fun h => ⟨h.1, h.2.1, h.2.2⟩⟩

/-- The year of an era that has a day of it. -/
def yearOfEra (e : Int) : Int :=
  (e - e / 1460 + e / 36524 - e / 146096) / 365

/-- By century, four years and year, a year begins after so many whole ones. -/
theorem daysBeforeYear_eq {a q k : Int} (hq : 0 ≤ q ∧ q ≤ 24) (hk : 0 ≤ k ∧ k ≤ 3) :
    daysBeforeYear (100 * a + 4 * q + k) = 36524 * a + 1461 * q + 365 * k := by
  unfold daysBeforeYear
  omega

/-- **The year of an era** that a day of it is in is found. -/
theorem yearOfEra_eq (hy : 0 ≤ y ∧ y < 400) (h : IsYearDay y n) :
    yearOfEra (daysBeforeYear y + n) = y := by
  have hn := h.nonneg
  have hle := h.le
  have hleap := h.leap
  rw [isLeapYear_iff] at hleap
  obtain ⟨a, q, k, rfl, ha, hq, hk⟩ : ∃ a q k : Int, y = 100 * a + 4 * q + k ∧
      (0 ≤ a ∧ a ≤ 3) ∧ (0 ≤ q ∧ q ≤ 24) ∧ (0 ≤ k ∧ k ≤ 3) :=
    ⟨y / 100, y % 100 / 4, y % 4, by omega, by omega, by omega, by omega⟩
  -- a leap day ends four years, and a century only if it ends the era
  have hlast : n = 365 → k = 3 ∧ (q = 24 → a = 3) := by
    intro heq
    have h4 := (hleap heq).1
    have h100 := (hleap heq).2
    omega
  clear hleap hy h
  rw [daysBeforeYear_eq hq hk]
  unfold yearOfEra
  generalize he : 36524 * a + 1461 * q + 365 * k + n = e
  -- a century is one too many on the last day of the era, which is taken off again
  have hcentury : e / 36524 = a ∨ e / 36524 = a + 1 ∧ e = 146096 := by omega
  have hera : e / 146096 = 0 ∧ e < 146096 ∨ e / 146096 = 1 ∧ e = 146096 := by omega
  have hfour : e / 1460 = 25 * a + q + (24 * a + q + 365 * k + n) / 1460 := by omega
  omega

/-- Every day of an era is in a year of it. -/
theorem exists_isYearDay {e : Int} (h : 0 ≤ e ∧ e < daysPerEra) :
    ∃ y n, (0 ≤ y ∧ y < 400) ∧ IsYearDay y n ∧ e = daysBeforeYear y + n := by
  unfold daysPerEra at h
  -- the last century, the last four years of one and the last year of four may be a day longer
  obtain ⟨a, r, rfl, ha, hr⟩ : ∃ a r : Int, e = 36524 * a + r ∧ (0 ≤ a ∧ a ≤ 3) ∧
      (0 ≤ r ∧ (r < 36524 ∨ r = 36524 ∧ a = 3)) :=
    ⟨min (e / 36524) 3, e - 36524 * min (e / 36524) 3, by omega, by omega, by omega⟩
  obtain ⟨q, u, rfl, hq, hu⟩ : ∃ q u : Int, r = 1461 * q + u ∧ (0 ≤ q ∧ q ≤ 24) ∧
      (0 ≤ u ∧ u < 1461) :=
    ⟨r / 1461, r % 1461, by omega, by omega, by omega⟩
  obtain ⟨k, n, rfl, hk, hn⟩ : ∃ k n : Int, u = 365 * k + n ∧ (0 ≤ k ∧ k ≤ 3) ∧
      (0 ≤ n ∧ (n < 365 ∨ n = 365 ∧ k = 3)) :=
    ⟨min (u / 365) 3, u - 365 * min (u / 365) 3, by omega, by omega, by omega⟩
  refine ⟨100 * a + 4 * q + k, n, by omega, ⟨hn.1, by omega, ?_⟩, ?_⟩
  · intro heq
    rw [isLeapYear_iff]
    omega
  · rw [daysBeforeYear_eq hq hk]
    omega

/-! ### Days of a year -/

/-- A day by its year and its number in it. -/
def dayOf (year n : Int) : Day :=
  ⟨year / 400 * daysPerEra + daysBeforeYear (year % 400) + n - marchOfYearZero⟩

theorem isYearDay_emod (year n : Int) : IsYearDay (year % 400) n ↔ IsYearDay year n := by
  have hleap : isLeapYear (year % 400 + 1) = true ↔ isLeapYear (year + 1) = true := by
    rw [isLeapYear_iff, isLeapYear_iff]
    omega
  rw [isYearDay_iff, isYearDay_iff, hleap]

/-- Every day is in a year. -/
theorem exists_dayOf (d : Day) : ∃ year n, IsYearDay year n ∧ dayOf year n = d := by
  have hday : 0 ≤ (d.number + marchOfYearZero) % daysPerEra ∧
      (d.number + marchOfYearZero) % daysPerEra < daysPerEra := by
    unfold daysPerEra
    omega
  obtain ⟨y, n, hy, hn, hrest⟩ := exists_isYearDay hday
  have hsum := Int.mul_ediv_add_emod (d.number + marchOfYearZero) daysPerEra
  generalize (d.number + marchOfYearZero) / daysPerEra = era at hsum
  have hera : (400 * era + y) / 400 = era := by omega
  have hyear : (400 * era + y) % 400 = y := by omega
  refine ⟨400 * era + y, n, ?_, ?_⟩
  · rw [← isYearDay_emod, hyear]
    exact hn
  · unfold dayOf
    rw [hera, hyear, Int.add_assoc, ← hrest, Int.mul_comm, hsum]
    cases d
    rw [Day.mk.injEq]
    exact Int.add_sub_cancel ..

/-- The day of an era that a day is, and the era. -/
theorem era_dayOf (h : IsYearDay year n) :
    ((dayOf year n).number + marchOfYearZero) / daysPerEra = year / 400 ∧
      ((dayOf year n).number + marchOfYearZero) % daysPerEra =
        daysBeforeYear (year % 400) + n := by
  have hn := (isYearDay_emod year n).2 h
  have hfirst := hn.nonneg
  have hlast := hn.le
  have hday : 0 ≤ daysBeforeYear (year % 400) + n ∧
      daysBeforeYear (year % 400) + n < daysPerEra := by
    unfold daysBeforeYear daysPerEra
    omega
  unfold dayOf daysPerEra at *
  dsimp only
  omega

/-! ### Months of a year -/

/-- A date by its year, its month counted from March, and its day. January and February are in the
civil year after. -/
def ofMonth (year m day : Int) : CivilDate where
  year := if m < 10 then year else year + 1
  month := if m < 10 then m + 3 else m - 9
  day := day

variable {m day : Int}

theorem month_cases (hm : 0 ≤ m ∧ m ≤ 11) :
    m = 0 ∨ m = 1 ∨ m = 2 ∨ m = 3 ∨ m = 4 ∨ m = 5 ∨ m = 6 ∨ m = 7 ∨ m = 8 ∨ m = 9 ∨ m = 10 ∨
      m = 11 := by
  omega

/-- How many days a month counted from March has. From March to January, a month ends where the
next one begins. -/
def monthLength (year m : Int) : Int :=
  if m = 11 then (if isLeapYear (year + 1) then 29 else 28)
  else daysBeforeMonth (m + 1) - daysBeforeMonth m

theorem daysInMonth_ofMonth (hm : 0 ≤ m ∧ m ≤ 11) :
    daysInMonth (ofMonth year m day).year (ofMonth year m day).month = monthLength year m := by
  rcases month_cases hm with rfl | rfl | rfl | rfl | rfl | rfl | rfl | rfl | rfl | rfl | rfl | rfl
  all_goals rfl

theorem isValid_ofMonth (hm : 0 ≤ m ∧ m ≤ 11) :
    (ofMonth year m day).isValid = true ↔ 1 ≤ day ∧ day ≤ monthLength year m := by
  have hmonth : 1 ≤ (ofMonth year m day).month ∧ (ofMonth year m day).month ≤ 12 := by
    unfold ofMonth
    dsimp only
    split <;> omega
  unfold isValid
  rw [daysInMonth_ofMonth hm]
  simp only [Bool.and_eq_true, decide_eq_true_eq, hmonth, true_and]
  rfl

/-- The calendar has the days of a month that are in the year and before the next month. -/
theorem isValid_ofMonth_iff (hm : 0 ≤ m ∧ m ≤ 11) :
    (ofMonth year m day).isValid = true ↔ 1 ≤ day ∧
      daysBeforeMonth m + (day - 1) < daysBeforeMonth (m + 1) ∧
      IsYearDay year (daysBeforeMonth m + (day - 1)) := by
  rw [isValid_ofMonth hm, isYearDay_iff]
  unfold monthLength
  by_cases february : m = 11
  · subst february
    have hfirst : daysBeforeMonth 11 = 337 := rfl
    have hafter : daysBeforeMonth (11 + 1) = 367 := rfl
    rw [if_pos rfl, hfirst, hafter]
    cases isLeapYear (year + 1) with
    | true => simp only [if_true, implies_true, and_true]; omega
    | false => simp only [Bool.false_eq_true, if_false, imp_false]; omega
  · rw [if_neg february]
    unfold daysBeforeMonth
    omega

/-- Every month has a first day. -/
theorem isValid_first (hm : 0 ≤ m ∧ m ≤ 11) : (ofMonth year m 1).isValid = true := by
  have hday : 0 ≤ daysBeforeMonth m + (1 - 1) ∧ daysBeforeMonth m + (1 - 1) ≤ 337 ∧
      daysBeforeMonth m + (1 - 1) < daysBeforeMonth (m + 1) := by
    unfold daysBeforeMonth
    omega
  refine (isValid_ofMonth_iff hm).2 ⟨Int.le_refl 1, hday.2.2, ?_⟩
  exact ⟨hday.1, by omega, by omega⟩

theorem toDay_ofMonth (hm : 0 ≤ m ∧ m ≤ 11) :
    (ofMonth year m day).toDay = dayOf year (daysBeforeMonth m + (day - 1)) := by
  have hyear : (if (ofMonth year m day).month ≤ 2 then (ofMonth year m day).year - 1
      else (ofMonth year m day).year) = year := by
    unfold ofMonth
    dsimp only
    split <;> split <;> omega
  have hmonth : (if (ofMonth year m day).month ≤ 2 then (ofMonth year m day).month + 9
      else (ofMonth year m day).month - 3) = m := by
    unfold ofMonth
    dsimp only
    split <;> split <;> omega
  unfold toDay
  dsimp only
  rw [hyear, hmonth, Int.add_assoc _ (daysBeforeMonth m)]
  rfl

/-- Every date of the calendar is in a month. -/
theorem exists_ofMonth (h : c.isValid = true) :
    ∃ year m day, (0 ≤ m ∧ m ≤ 11) ∧ c = ofMonth year m day := by
  unfold isValid at h
  simp only [Bool.and_eq_true, decide_eq_true_eq] at h
  by_cases winter : c.month ≤ 2
  · refine ⟨c.year - 1, c.month + 9, c.day, by omega, ?_⟩
    unfold ofMonth
    rw [if_neg (by omega), if_neg (by omega), Int.sub_add_cancel, Int.add_sub_cancel]
  · refine ⟨c.year, c.month - 3, c.day, by omega, ?_⟩
    unfold ofMonth
    rw [if_pos (by omega), if_pos (by omega), Int.sub_add_cancel]

/-! ### Dates of days -/

/-- The month of a day of a year: the one that has begun and not ended. -/
theorem month_eq_iff : (5 * n + 2) / 153 = m ↔
    daysBeforeMonth m ≤ n ∧ n < daysBeforeMonth (m + 1) := by
  unfold daysBeforeMonth
  omega

/-- **The date of a day** is that of its month, counted on from the first. -/
theorem date_dayOf (h : IsYearDay year (daysBeforeMonth m + (day - 1))) (pos : 1 ≤ day)
    (hlt : daysBeforeMonth m + (day - 1) < daysBeforeMonth (m + 1)) :
    (dayOf year (daysBeforeMonth m + (day - 1))).date = ofMonth year m day := by
  obtain ⟨hera, hrest⟩ := era_dayOf h
  have hyear := yearOfEra_eq (by omega) ((isYearDay_emod ..).2 h)
  have hmonth := month_eq_iff.2 ⟨Int.le_add_of_nonneg_right (Int.sub_nonneg_of_le pos), hlt⟩
  have hsum : 400 * (year / 400) + year % 400 = year := Int.mul_ediv_add_emod year 400
  have hday : ∀ a b : Int, a + b - a = b := by omega
  unfold yearOfEra at hyear
  unfold Day.date
  dsimp only
  rw [hera, hrest, hyear, hsum, hday, hmonth, hday, Int.sub_add_cancel]
  rfl

/-- **A date of the calendar is found again** from its day. -/
theorem date_toDay (h : c.isValid = true) : c.toDay.date = c := by
  obtain ⟨year, m, day, hm, rfl⟩ := exists_ofMonth h
  obtain ⟨pos, hlt, hn⟩ := (isValid_ofMonth_iff hm).1 h
  rw [toDay_ofMonth hm, date_dayOf hn pos hlt]

/-- Every day has a date of the calendar. -/
theorem exists_toDay_eq (d : Day) : ∃ c : CivilDate, c.isValid = true ∧ c.toDay = d := by
  obtain ⟨year, n, hn, rfl⟩ := exists_dayOf d
  have hfirst := hn.nonneg
  have hlast := hn.le
  obtain ⟨hbegun, hlt⟩ := month_eq_iff.1 (rfl : (5 * n + 2) / 153 = (5 * n + 2) / 153)
  have hm : 0 ≤ (5 * n + 2) / 153 ∧ (5 * n + 2) / 153 ≤ 11 := by omega
  generalize (5 * n + 2) / 153 = m at hbegun hlt hm
  have hday : daysBeforeMonth m + (n - daysBeforeMonth m + 1 - 1) = n := by omega
  refine ⟨ofMonth year m (n - daysBeforeMonth m + 1), (isValid_ofMonth_iff hm).2 ?_, ?_⟩
  · rw [hday]
    exact ⟨by omega, hlt, hn⟩
  · rw [toDay_ofMonth hm, hday]

end CivilDate

namespace Day

/-- **A day is found again** from its date. -/
theorem toDay_date (d : Day) : d.date.toDay = d := by
  obtain ⟨c, valid, rfl⟩ := CivilDate.exists_toDay_eq d
  rw [CivilDate.date_toDay valid]

theorem isValid_date (d : Day) : d.date.isValid = true := by
  obtain ⟨c, valid, rfl⟩ := CivilDate.exists_toDay_eq d
  rw [CivilDate.date_toDay valid]
  exact valid

/-- Days with the same date are the same. -/
theorem date_inj {d e : Day} : d.date = e.date ↔ d = e := by
  refine ⟨fun same => ?_, fun same => same ▸ rfl⟩
  rw [← d.toDay_date, same, e.toDay_date]

end Day

/-! ### The date after -/

namespace CivilDate

variable {c : CivilDate} {year m day : Int}

/-- The date after a date: on in the month, in the year, or in the next one. -/
def next (c : CivilDate) : CivilDate :=
  if c.day < daysInMonth c.year c.month then { c with day := c.day + 1 }
  else if c.month < 12 then ⟨c.year, c.month + 1, 1⟩
  else ⟨c.year + 1, 1, 1⟩

/-- A year is as long as it takes to the next one. -/
theorem dayOf_add_one (year : Int) :
    dayOf (year + 1) 0 = dayOf year (if isLeapYear (year + 1) then 366 else 365) := by
  have hlength : (year + 1) / 400 * daysPerEra + daysBeforeYear ((year + 1) % 400) + 0 =
      year / 400 * daysPerEra + daysBeforeYear (year % 400) +
        if isLeapYear (year + 1) then 366 else 365 := by
    unfold daysPerEra daysBeforeYear
    by_cases leap : isLeapYear (year + 1) = true
    · rw [if_pos leap]
      rw [isLeapYear_iff] at leap
      omega
    · rw [if_neg leap]
      rw [isLeapYear_iff] at leap
      omega
  unfold dayOf
  rw [hlength]

theorem next_dayOf (year n : Int) : (dayOf year n).next = dayOf year (n + 1) := by
  unfold dayOf Day.next
  rw [Day.mk.injEq]
  dsimp only
  omega

/-- The first day of the month after. A year ends with February. -/
def firstAfter (year m : Int) : CivilDate :=
  if m = 11 then ofMonth (year + 1) 0 1 else ofMonth year (m + 1) 1

/-- It comes when the month has had all its days. -/
theorem toDay_firstAfter (hm : 0 ≤ m ∧ m ≤ 11) : (firstAfter year m).isValid = true ∧
    (firstAfter year m).toDay = dayOf year (daysBeforeMonth m + monthLength year m) := by
  unfold firstAfter monthLength
  by_cases february : m = 11
  · subst february
    rw [if_pos rfl, if_pos rfl]
    have hfull : daysBeforeMonth 11 + (if isLeapYear (year + 1) then 29 else 28) =
        if isLeapYear (year + 1) then 366 else 365 := by
      split <;> rfl
    rw [hfull, ← dayOf_add_one]
    exact ⟨isValid_first (by decide), toDay_ofMonth (by decide)⟩
  · have hm' : 0 ≤ m + 1 ∧ m + 1 ≤ 11 := by omega
    rw [if_neg february, if_neg february, toDay_ofMonth hm']
    refine ⟨isValid_first hm', ?_⟩
    congr 1
    omega

theorem next_ofMonth (hm : 0 ≤ m ∧ m ≤ 11) : (ofMonth year m day).next =
    if day < monthLength year m then ofMonth year m (day + 1) else firstAfter year m := by
  show (if day < daysInMonth (ofMonth year m day).year (ofMonth year m day).month then _
    else _) = _
  rw [daysInMonth_ofMonth hm]
  split
  · rfl
  · rcases month_cases hm with
      rfl | rfl | rfl | rfl | rfl | rfl | rfl | rfl | rfl | rfl | rfl | rfl
    all_goals rfl

/-- **The day after has the date after.** -/
theorem toDay_next (h : c.isValid = true) :
    c.next.isValid = true ∧ c.next.toDay = c.toDay.next := by
  obtain ⟨year, m, day, hm, rfl⟩ := exists_ofMonth h
  obtain ⟨pos, hle⟩ := (isValid_ofMonth hm).1 h
  have hafter : (ofMonth year m day).toDay.next = dayOf year (daysBeforeMonth m + day) := by
    rw [toDay_ofMonth hm, next_dayOf]
    congr 1
    omega
  rw [next_ofMonth hm, hafter]
  split
  · next further =>
    refine ⟨(isValid_ofMonth hm).2 ⟨by omega, further⟩, ?_⟩
    rw [toDay_ofMonth hm, Int.add_sub_cancel]
  · next ended =>
    have hlast : day = monthLength year m := Int.le_antisymm hle (Int.not_lt.1 ended)
    rw [hlast]
    exact toDay_firstAfter hm

end CivilDate

/-- The next day has the next date. -/
theorem Day.date_next (d : Day) : d.next.date = d.date.next := by
  obtain ⟨valid, hday⟩ := CivilDate.toDay_next d.isValid_date
  calc d.next.date
    _ = d.date.toDay.next.date := by rw [d.toDay_date]
    _ = d.date.next.toDay.date := by rw [hday]
    _ = d.date.next := CivilDate.date_toDay valid

end EnrollmentDesk
