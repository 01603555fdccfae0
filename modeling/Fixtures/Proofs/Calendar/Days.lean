import Fixtures.Calendar.Timestamp

namespace Fixtures.Date

/-- Days between the start of an era and a year in it. Eras have 400 years, which begin in March. -/
def daysBefore (year : Int) : Int :=
  365 * year + year / 4 - year / 100

/-- The year of an era that a day of it is in. The leap days before it are taken out first. -/
theorem daysBefore_bounds {day year : Int} (h : 0 ≤ day) (hlt : day < 146097)
    (hyear : year = (day - day / 1460 + day / 36524 - day / 146096) / 365) :
    daysBefore year ≤ day ∧ day ≤ daysBefore year + 365 := by
  unfold daysBefore
  have hleaps : year / 4 = day / 1460 - 1 ∨ year / 4 = day / 1460 ∨ year / 4 = day / 1460 + 1 := by
    omega
  have hcenturies : year / 100 = day / 36524 - 1 ∨ year / 100 = day / 36524 := by
    omega
  rcases hleaps with hleaps | hleaps | hleaps <;> rcases hcenturies with hcenturies | hcenturies <;>
    omega

/-- Days of a year that begins in March. Its February is that of the next year. -/
def yearDays (year : Int) : Int :=
  if isLeapYear (year + 1) then 366 else 365

theorem isLeapYear_add_era (year era : Int) : isLeapYear (year + era * 400) = isLeapYear year := by
  have hfour : (year + era * 400) % 4 = year % 4 := by omega
  have hcentury : (year + era * 400) % 100 = year % 100 := by omega
  have hera : (year + era * 400) % 400 = year % 400 := by omega
  unfold isLeapYear
  rw [hfour, hcentury, hera]

theorem before_common_year {year : Int} (h : 0 ≤ year) (hlt : year < 400)
    (hcommon : isLeapYear (year + 1) ≠ true) :
    year % 4 ≤ 2 ∨ year = 99 ∨ year = 199 ∨ year = 299 := by
  simp only [isLeapYear, ne_eq, Bool.and_eq_true, Bool.or_eq_true, decide_eq_true_eq] at hcommon
  omega

theorem lt_daysBefore_add_yearDays {day year : Int} (h : 0 ≤ day) (hlt : day < 146097)
    (hyear : year = (day - day / 1460 + day / 36524 - day / 146096) / 365) :
    day < daysBefore year + yearDays year := by
  have hbounds := daysBefore_bounds h hlt hyear
  have hrange : 0 ≤ year ∧ year < 400 := by omega
  unfold yearDays
  split
  · omega
  · next hcommon =>
    -- A common year has no day after its 365th: that would already be counted to the next year.
    have hlast : day ≠ daysBefore year + 365 := by
      intro hlast
      unfold daysBefore at hlast
      rcases before_common_year hrange.1 hrange.2 hcommon with hfour | rfl | rfl | rfl
      · have hday : day = 1460 * (year / 4) + 365 * (year % 4 + 1) + (year / 4 - year / 100) := by
          omega
        have hleaps : 0 ≤ year / 4 - year / 100 ∧ year / 4 - year / 100 ≤ 96 := by omega
        have hcycles : day / 1460 = year / 4 := by omega
        have hcenturies : day / 36524 = year / 100 := by omega
        omega
      all_goals omega
    omega

/-- What a date comes from: an era, a year in it, a month counted from March and a day of the
month. -/
theorem exists_parts (d : Date) : ∃ era year month dayOfMonth : Int, (0 ≤ year ∧ year < 400) ∧
    (0 ≤ month ∧ month ≤ 11) ∧ (1 ≤ dayOfMonth ∧
      (153 * month + 2) / 5 + dayOfMonth ≤ (153 * (month + 1) + 2) / 5 ∧
      (153 * month + 2) / 5 + dayOfMonth ≤ yearDays year) ∧
    d.day + 719468 = era * 146097 + daysBefore year + (153 * month + 2) / 5 + dayOfMonth - 1 ∧
    d.civil = ⟨if (if month < 10 then month + 3 else month - 9) ≤ 2 then year + era * 400 + 1
      else year + era * 400, (if month < 10 then month + 3 else month - 9).toNat,
        dayOfMonth.toNat⟩ := by
  let day := d.day + 719468 - (d.day + 719468) / 146097 * 146097
  let year := (day - day / 1460 + day / 36524 - day / 146096) / 365
  let dayOfYear := day - daysBefore year
  let month := (5 * dayOfYear + 2) / 153
  have hday : 0 ≤ day ∧ day < 146097 := by omega
  have hyear : 0 ≤ year ∧ year < 400 := by omega
  have hbounds : 0 ≤ dayOfYear ∧ dayOfYear ≤ 365 := by
    have hyearBounds : daysBefore year ≤ day ∧ day ≤ daysBefore year + 365 :=
      daysBefore_bounds hday.1 hday.2 rfl
    omega
  have hlast : day < daysBefore year + yearDays year := lt_daysBefore_add_yearDays hday.1 hday.2 rfl
  refine ⟨(d.day + 719468) / 146097, year, month, dayOfYear - (153 * month + 2) / 5 + 1, hyear,
    by omega, ⟨by omega, by omega, by omega⟩, by omega, rfl⟩

theorem civil_bounds (d : Date) : (1 ≤ d.civil.month ∧ d.civil.month ≤ 12) ∧
    1 ≤ d.civil.dayOfMonth ∧ d.civil.dayOfMonth ≤ 31 := by
  obtain ⟨era, year, month, dayOfMonth, -, hmonth, hdayOfMonth, -, hcivil⟩ := d.exists_parts
  rw [hcivil]
  dsimp only
  split <;> omega

theorem dayOfMonth_le (d : Date) : d.civil.dayOfMonth ≤ daysInMonth d.civil.year d.civil.month := by
  obtain ⟨era, year, month, dayOfMonth, -, hmonth, ⟨-, hmonthEnd, hyearEnd⟩, -, hcivil⟩ :=
    d.exists_parts
  rw [hcivil]
  have hfebruary : isLeapYear (year + era * 400 + 1) = isLeapYear (year + 1) := by
    rw [show year + era * 400 + 1 = year + 1 + era * 400 by omega, isLeapYear_add_era]
  have hmonths : month = 11 ∨ month = 0 ∨ month = 1 ∨ month = 2 ∨ month = 3 ∨ month = 4 ∨
      month = 5 ∨ month = 6 ∨ month = 7 ∨ month = 8 ∨ month = 9 ∨ month = 10 := by
    omega
  rcases hmonths with rfl | hmonths
  -- February has the days that the others leave to it, as it ends the year.
  · unfold yearDays at hyearEnd
    cases hleap : isLeapYear (year + 1) <;> simp [daysInMonth, hfebruary, hleap] at hyearEnd ⊢ <;>
      omega
  · rcases hmonths with rfl | rfl | rfl | rfl | rfl | rfl | rfl | rfl | rfl | rfl | rfl <;>
      simp [daysInMonth] <;> omega

theorem dayNumber_civil (d : Date) : dayNumber d.civil = d.day := by
  obtain ⟨era, year, month, dayOfMonth, hyear, hmonth, hdayOfMonth, hday, hcivil⟩ := d.exists_parts
  have hera : (year + era * 400) / 400 = era := by omega
  have hbefore : year + era * 400 - era * 400 = year := by omega
  unfold daysBefore at hday
  rw [hcivil]
  -- March comes first, so January and February are those of the year before.
  by_cases hmarch : month < 10
  · have hlate : ¬ (month + 3).toNat ≤ 2 := by omega
    have hcount : (((month + 3).toNat : Int) + 9) % 12 = month := by omega
    simp only [dayNumber, hmarch, if_true, if_neg hlate, if_neg (show ¬ month + 3 ≤ 2 by omega),
      hcount, hera, hbefore]
    omega
  · have hearly : (month - 9).toNat ≤ 2 := by omega
    have hcount : (((month - 9).toNat : Int) + 9) % 12 = month := by omega
    simp only [dayNumber, hmarch, if_false, if_pos hearly, if_pos (show month - 9 ≤ 2 by omega),
      hcount, Int.add_sub_cancel, hera, hbefore]
    omega

theorem ofCivil?_civil (d : Date) : ofCivil? d.civil = some d := by
  have hbounds := d.civil_bounds
  have hday : ofDay? d.day = some d := dif_pos ⟨d.first_le, d.le_last⟩
  rw [ofCivil?, if_pos ⟨hbounds.1.1, hbounds.1.2, hbounds.2.1, d.dayOfMonth_le⟩, dayNumber_civil,
    hday]

theorem civil_injective {d e : Date} (h : d.civil = e.civil) : d = e :=
  Option.some.inj (by rw [← ofCivil?_civil d, h, ofCivil?_civil])

end Fixtures.Date

namespace Fixtures

open Std

namespace Date

theorem ext_day {a b : Date} (h : a.day = b.day) : a = b := by
  cases a
  cases b
  cases h
  rfl

theorem day_lt_lastDay {d : Date} (h : d ≠ last) : d.day < lastDay := by
  have hne : d.day ≠ lastDay := fun heq => h (ext_day heq)
  have := d.le_last
  omega

end Date

namespace Timestamp

variable {a b t : Timestamp} {d e : Date}

theorem le_iff : a ≤ b ↔ a.date.day < b.date.day ∨ a.date.day = b.date.day ∧ a.rank ≤ b.rank :=
  Iff.rfl

theorem lt_iff : a < b ↔ a.date.day < b.date.day ∨ a.date.day = b.date.day ∧ a.rank < b.rank :=
  Iff.rfl

theorem ext_rank (hday : a.date.day = b.date.day) (hrank : a.rank = b.rank) : a = b := by
  have ha := a.leap.toNat_le
  have hb := b.leap.toNat_le
  unfold rank at hrank
  have hdate : a.date = b.date := Date.ext_day hday
  have hsecond : a.second = b.second := by omega
  have hleap : a.leap = b.leap := by
    cases hleap : a.leap <;> cases hleap' : b.leap <;>
      simp only [hleap, hleap', Bool.toNat_false, Bool.toNat_true] at hrank ⊢ <;> grind
  cases a
  cases b
  cases hdate
  cases hsecond
  cases hleap
  rfl

instance : IsLinearOrder Timestamp where
  le_refl _ := .inr ⟨rfl, Nat.le_refl _⟩
  le_trans a b c hab hbc := by
    rw [le_iff] at hab hbc ⊢
    omega
  le_antisymm a b hab hba := by
    rw [le_iff] at hab hba
    exact ext_rank (by omega) (by omega)
  le_total a b := by
    rw [le_iff, le_iff]
    omega

instance : LawfulOrderLT Timestamp where
  lt_iff a b := by
    rw [lt_iff, le_iff, le_iff]
    omega

theorem date_midnight (d : Date) : (midnight d).date = d :=
  rfl

theorem rank_midnight (d : Date) : (midnight d).rank = 0 :=
  rfl

theorem isMidnight_iff : t.isMidnight = true ↔ t.rank = 0 := by
  unfold isMidnight rank
  cases t.leap with
  | false =>
    simp only [Bool.not_false, Bool.and_true, decide_eq_true_eq, Bool.toNat_false, Nat.add_zero]
    omega
  | true => simp

theorem midnight_le_iff : midnight d ≤ t ↔ d.day ≤ t.date.day := by
  rw [le_iff, rank_midnight]
  show d.day < t.date.day ∨ d.day = t.date.day ∧ 0 ≤ t.rank ↔ _
  omega

theorem le_midnight_iff :
    t ≤ midnight d ↔ t.date.day < d.day ∨ t.date.day = d.day ∧ t.rank = 0 := by
  rw [le_iff, rank_midnight, Nat.le_zero]
  rfl

theorem midnight_le_midnight : midnight d ≤ midnight e ↔ d.day ≤ e.day :=
  midnight_le_iff

end Timestamp

end Fixtures
