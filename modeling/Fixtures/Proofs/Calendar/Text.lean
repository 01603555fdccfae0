import Mathlib.Algebra.Group.Nat.Defs
import Fixtures.Calendar.Format
import Fixtures.Proofs.Calendar.Days
import Fixtures.Proofs.Numeric.Digits

namespace Fixtures.Calendar

open Fixtures.Text

section Padded

variable {width m n : Nat} {c : Char}

theorem toList_padded (width n : Nat) : (padded width n).toList =
    List.replicate (width - (toString n).length) '0' ++ Nat.toDigits 10 n := by
  simp [padded, padLeft, Nat.toString_eq_repr, Nat.toList_repr]

theorem natOfDigits_padded (width n : Nat) : natOfDigits (padded width n).toList = n := by
  rw [natOfDigits_eq, toList_padded, Nat.ofDigitChars_append, Nat.ofDigitChars_replicate_zero,
    Nat.mul_zero, Nat.ofDigitChars_ten_toDigits]

theorem padded_injective (h : padded width m = padded width n) : m = n := by
  rw [← natOfDigits_padded width m, h, natOfDigits_padded]

theorem length_padded (h : (toString n).length ≤ width) :
    (padded width n).toList.length = width := by
  have hdigits : (toString n).length = (Nat.toDigits 10 n).length := by
    rw [← String.length_toList, Nat.toString_eq_repr, Nat.toList_repr]
  rw [toList_padded, List.length_append, List.length_replicate]
  omega

theorem length_padded_of_lt (hwidth : 0 < width) (h : n < 10 ^ width) :
    (padded width n).toList.length = width := by
  refine length_padded ?_
  rw [Nat.toString_eq_repr]
  exact (Nat.length_repr_le_iff hwidth).mpr h

theorem length_padded_two (h : n < 100) : (padded 2 n).toList.length = 2 :=
  length_padded_of_lt (by decide) h

theorem isDigit_of_mem_padded (h : c ∈ (padded width n).toList) : c.isDigit = true := by
  rw [toList_padded, List.mem_append] at h
  rcases h with hzero | hdigit
  · rw [List.eq_of_mem_replicate hzero]
    rfl
  · exact Nat.isDigit_of_mem_toDigits (by decide) (by decide) hdigit

end Padded

variable {d e : Date} {c : Char}

def IsDateMark (c : Char) : Prop :=
  c.isDigit = true ∨ c = '-' ∨ c = '+'

theorem isDateMark_of_mem_padded {width n : Nat} (h : c ∈ (padded width n).toList) : IsDateMark c :=
  .inl (isDigit_of_mem_padded h)

theorem isDateMark_of_mem_yearText {year : Int} (h : c ∈ (yearText year).toList) :
    IsDateMark c := by
  unfold yearText at h
  split at h
  · exact isDateMark_of_mem_padded h
  · rw [String.toList_append, List.mem_append] at h
    rcases h with hsign | hdigit
    · split at hsign
      · exact .inr (.inl (List.mem_singleton.mp hsign))
      · exact .inr (.inr (List.mem_singleton.mp hsign))
    · exact isDateMark_of_mem_padded hdigit

theorem toList_dateText (d : Date) : (dateText d).toList =
    (yearText d.civil.year).toList ++
      ('-' :: (padded 2 d.civil.month).toList ++ '-' :: (padded 2 d.civil.dayOfMonth).toList) := by
  simp [dateText, String.toList_append]

theorem isDateMark_of_mem_dateText (h : c ∈ (dateText d).toList) : IsDateMark c := by
  simp only [toList_dateText, List.mem_append, List.mem_cons] at h
  rcases h with hyear | (rfl | hmonth) | rfl | hday
  · exact isDateMark_of_mem_yearText hyear
  · exact .inr (.inl rfl)
  · exact isDateMark_of_mem_padded hmonth
  · exact .inr (.inl rfl)
  · exact isDateMark_of_mem_padded hday

def yearSign (year : Int) : Char :=
  if year < 0 then '-' else '+'

theorem toList_yearText {year : Int} (h : ¬ (0 ≤ year ∧ year ≤ 9999)) :
    (yearText year).toList = yearSign year :: (padded 4 year.natAbs).toList := by
  unfold yearText yearSign
  rw [if_neg h, String.toList_append]
  split <;> rfl

theorem yearText_ne_padded {year : Int} {n : Nat} (h : ¬ (0 ≤ year ∧ year ≤ 9999)) :
    yearText year ≠ padded 4 n := by
  intro heq
  have hmem : yearSign year ∈ (padded 4 n).toList := by
    rw [← heq, toList_yearText h]
    exact List.mem_cons_self
  have hdigit := isDigit_of_mem_padded hmem
  unfold yearSign at hdigit
  split at hdigit <;> exact absurd hdigit (by decide)

theorem yearText_injective {x y : Int} (h : yearText x = yearText y) : x = y := by
  have hdigits : ∀ year : Int, 0 ≤ year ∧ year ≤ 9999 → yearText year = padded 4 year.toNat :=
    fun year hyear => if_pos hyear
  by_cases hx : 0 ≤ x ∧ x ≤ 9999 <;> by_cases hy : 0 ≤ y ∧ y ≤ 9999
  · rw [hdigits x hx, hdigits y hy] at h
    have := padded_injective h
    omega
  · exact absurd (h.symm.trans (hdigits x hx)) (yearText_ne_padded hy)
  · exact absurd (h.trans (hdigits y hy)) (yearText_ne_padded hx)
  · have hlists := congrArg String.toList h
    rw [toList_yearText hx, toList_yearText hy, List.cons.injEq] at hlists
    have habs := padded_injective (String.toList_injective hlists.2)
    have hsign := hlists.1
    unfold yearSign at hsign
    split at hsign <;> split at hsign <;> first | omega | exact absurd hsign (by decide)

theorem dateText_injective (h : dateText d = dateText e) : d = e := by
  have hlists := congrArg String.toList h
  have hmonth : ∀ d : Date, (padded 2 d.civil.month).toList.length = 2 := fun d =>
    length_padded_two (by have := d.civil_bounds; omega)
  have hday : ∀ d : Date, (padded 2 d.civil.dayOfMonth).toList.length = 2 := fun d =>
    length_padded_two (by have := d.civil_bounds; omega)
  rw [toList_dateText, toList_dateText] at hlists
  obtain ⟨hyears, hrest⟩ := List.append_inj' hlists (by simp [hmonth, hday])
  obtain ⟨hmonths, hdays⟩ :=
    List.append_inj (List.cons.inj hrest).2 ((hmonth d).trans (hmonth e).symm)
  refine Date.civil_injective ((Date.Civil.mk.injEq ..).mpr ⟨?_, ?_, ?_⟩)
  · exact yearText_injective (String.toList_injective hyears)
  · exact padded_injective (String.toList_injective hmonths)
  · exact padded_injective (String.toList_injective (List.cons.inj hdays).2)

variable {t u : Timestamp}

/-- A leap second is the last one of a minute, as it is where it is read from a text. -/
def EndsMinute (t : Timestamp) : Prop :=
  t.leap = true → t.second % 60 = 59

def IsTimestampMark (c : Char) : Prop :=
  IsDateMark c ∨ c = ':' ∨ c = 'T'

theorem toList_timeText (t : Timestamp) : (timeText t).toList =
    (padded 2 (t.second / 3600)).toList ++ ':' :: ((padded 2 (t.second / 60 % 60)).toList ++
      ':' :: (padded 2 (t.second % 60 + t.leap.toNat)).toList) := by
  simp [timeText, String.toList_append]

theorem toList_timestampText (t : Timestamp) : (timestampText t).toList =
    (dateText t.date).toList ++ 'T' :: (timeText t).toList := by
  simp [timestampText, String.toList_append]

theorem isTimestampMark_of_mem_timestampText (h : c ∈ (timestampText t).toList) :
    IsTimestampMark c := by
  simp only [toList_timestampText, toList_timeText, List.mem_append, List.mem_cons] at h
  rcases h with hdate | rfl | hhour | rfl | hminute | rfl | hsecond
  · exact .inl (isDateMark_of_mem_dateText hdate)
  · exact .inr (.inr rfl)
  · exact .inl (isDateMark_of_mem_padded hhour)
  · exact .inr (.inl rfl)
  · exact .inl (isDateMark_of_mem_padded hminute)
  · exact .inr (.inl rfl)
  · exact .inl (isDateMark_of_mem_padded hsecond)

theorem eq_of_clock (ht : EndsMinute t) (hu : EndsMinute u) (hdate : t.date = u.date)
    (hhour : t.second / 3600 = u.second / 3600) (hminute : t.second / 60 % 60 = u.second / 60 % 60)
    (hsecond : t.second % 60 + t.leap.toNat = u.second % 60 + u.leap.toNat) : t = u := by
  have hleap : t.leap = u.leap := by
    unfold EndsMinute at ht hu
    cases hl : t.leap <;> cases hl' : u.leap <;> simp [hl, hl'] at ht hu hsecond ⊢ <;> omega
  have hsame : t.second = u.second := by
    rw [hleap] at hsecond
    omega
  cases t
  cases u
  cases hdate
  cases hleap
  cases hsame
  rfl

theorem timestampText_injective (ht : EndsMinute t) (hu : EndsMinute u)
    (h : timestampText t = timestampText u) : t = u := by
  have hlists := congrArg String.toList h
  have hleap : ∀ t : Timestamp, t.leap.toNat ≤ 1 := fun t => Bool.toNat_le _
  have hhour : ∀ t : Timestamp, (padded 2 (t.second / 3600)).toList.length = 2 := fun t =>
    length_padded_two (by have := t.second_lt; omega)
  have hminute : ∀ t : Timestamp, (padded 2 (t.second / 60 % 60)).toList.length = 2 := fun t =>
    length_padded_two (by omega)
  have hsecond : ∀ t : Timestamp, (padded 2 (t.second % 60 + t.leap.toNat)).toList.length = 2 :=
    fun t => length_padded_two (by have := hleap t; omega)
  rw [toList_timestampText, toList_timestampText, toList_timeText, toList_timeText] at hlists
  obtain ⟨hdates, hrest⟩ := List.append_inj' hlists (by simp [hhour, hminute, hsecond])
  obtain ⟨hhours, hrest⟩ := List.append_inj (List.cons.inj hrest).2 ((hhour t).trans (hhour u).symm)
  obtain ⟨hminutes, hrest⟩ :=
    List.append_inj (List.cons.inj hrest).2 ((hminute t).trans (hminute u).symm)
  refine eq_of_clock ht hu ?_ ?_ ?_ ?_
  · exact dateText_injective (String.toList_injective hdates)
  · exact padded_injective (String.toList_injective hhours)
  · exact padded_injective (String.toList_injective hminutes)
  · exact padded_injective (String.toList_injective (List.cons.inj hrest).2)

theorem endsMinute_of_parseDateTime? {separate : List Char → Option (List Char)} {s : String}
    (h : parseDateTime? separate s = some t) : EndsMinute t := by
  simp only [parseDateTime?, Option.bind_eq_bind, Option.bind_eq_some_iff] at h
  obtain ⟨_, -, _, -, ⟨⟨second, leap⟩, rest⟩, htime, h⟩ := h
  split at h
  · cases h
  · obtain ⟨date, -, h⟩ := Option.bind_eq_some_iff.mp h
    split at h
    · cases h
      simp only [time?, Option.bind_eq_bind, Option.bind_eq_some_iff] at htime
      obtain ⟨hour, -, _, -, minute, -, _, -, number, -, htime⟩ := htime
      split at htime
      · cases htime
      · cases htime
        intro hleap
        simp only [decide_eq_true_eq] at hleap
        simp only
        omega
    · cases h

theorem endsMinute_midnight (d : Date) : EndsMinute (.midnight d) :=
  nofun

theorem endsMinute_of_parseTimestamp? {s : String} (h : parseTimestamp? s = some t) :
    EndsMinute t := by
  unfold parseTimestamp? at h
  simp only [Option.orElse_eq_orElse, Option.orElse_eq_or, Option.or_eq_some_iff] at h
  rcases h with h | ⟨-, h | ⟨-, h⟩⟩
  · exact endsMinute_of_parseDateTime? h
  · exact endsMinute_of_parseDateTime? h
  · obtain ⟨d, -, rfl⟩ := Option.map_eq_some_iff.mp h
    exact endsMinute_midnight d

end Fixtures.Calendar
