import Fixtures.Proofs.Calendar.Text

namespace Fixtures.Calendar

open Fixtures.Text

variable {width n : Nat} {ds rest : List Char} {d : Date} {t : Timestamp}

def EndsDigits (rest : List Char) : Prop :=
  ∀ c ∈ rest.head?, c.isDigit = false

theorem endsDigits_nil : EndsDigits [] := by
  simp [EndsDigits]

theorem endsDigits_cons {c : Char} (h : c.isDigit = false) : EndsDigits (c :: rest) := by
  simpa [EndsDigits] using h

theorem takeWhile_digits (hds : ∀ c ∈ ds, c.isDigit) (hrest : EndsDigits rest) :
    (ds ++ rest).takeWhile Char.isDigit = ds := by
  rw [List.takeWhile_append_of_pos hds]
  cases rest with
  | nil => simp
  | cons c rest => simp [hrest c rfl]

theorem EndsDigits.take (h : EndsDigits rest) (n : Nat) : EndsDigits (rest.take n) := by
  cases n with
  | zero => exact endsDigits_nil
  | succ n => rwa [EndsDigits, List.head?_take, if_neg n.succ_ne_zero]

theorem number?_append (hds : ∀ c ∈ ds, c.isDigit) (hne : ds ≠ []) (hwidth : ds.length ≤ width)
    (hrest : EndsDigits rest) : number? width (ds ++ rest) = some (natOfDigits ds, rest) := by
  have hdigits : ((ds ++ rest).take width).takeWhile Char.isDigit = ds := by
    rw [List.take_append, List.take_of_length_le hwidth]
    exact takeWhile_digits hds (hrest.take _)
  rw [number?]
  simp only [hdigits, List.isEmpty_iff, if_neg hne, List.drop_left]

theorem padded_ne_nil (width n : Nat) : (padded width n).toList ≠ [] := by
  rw [toList_padded]
  exact List.append_ne_nil_of_right_ne_nil _ Nat.toDigits_ne_nil

theorem number?_padded {most : Nat} (hwidth : (padded width n).toList.length ≤ most)
    (hrest : EndsDigits rest) :
    number? most ((padded width n).toList ++ rest) = some (n, rest) := by
  rw [number?_append (fun _ => isDigit_of_mem_padded) (padded_ne_nil width n) hwidth hrest,
    natOfDigits_padded]

theorem skipBlanks_append (hds : ∀ c ∈ ds, c.isDigit) (hne : ds ≠ []) :
    skipBlanks (ds ++ rest) = ds ++ rest := by
  obtain ⟨c, ds, rfl⟩ := List.exists_cons_of_ne_nil hne
  rw [skipBlanks, List.cons_append, List.dropWhile_cons_of_neg]
  rw [isBlank_of_isDigit (hds c List.mem_cons_self)]
  exact Bool.false_ne_true

theorem skipBlanks_padded :
    skipBlanks ((padded width n).toList ++ rest) = (padded width n).toList ++ rest :=
  skipBlanks_append (fun _ => isDigit_of_mem_padded) (padded_ne_nil width n)

theorem field?_padded (h : n < 100) (hrest : EndsDigits rest) :
    field? ((padded 2 n).toList ++ rest) = some (n, rest) := by
  rw [field?, skipBlanks_padded, number?_padded (Nat.le_of_eq (length_padded_two h)) hrest]

section Years

variable {cs : List Char}

theorem year?_minus (h : number? cs.length cs = some (n, rest)) :
    year? ('-' :: cs) = some (-(n : Int), rest) := by
  have hblank : skipBlanks ('-' :: cs) = '-' :: cs := List.dropWhile_cons_of_neg (by decide)
  rw [year?, hblank]
  simp only [h, Option.map_some]

theorem year?_plus (h : number? cs.length cs = some (n, rest)) :
    year? ('+' :: cs) = some ((n : Int), rest) := by
  have hblank : skipBlanks ('+' :: cs) = '+' :: cs := List.dropWhile_cons_of_neg (by decide)
  rw [year?, hblank]
  simp only [h, Option.map_some]

theorem year?_digits (hds : ∀ c ∈ ds, c.isDigit) (hne : ds ≠ [])
    (h : number? 4 (ds ++ cs) = some (n, rest)) : year? (ds ++ cs) = some ((n : Int), rest) := by
  obtain ⟨c, ds, rfl⟩ := List.exists_cons_of_ne_nil hne
  have hc := hds c List.mem_cons_self
  rw [year?, skipBlanks_append hds hne]
  split
  · next heq =>
    cases heq
    exact absurd hc (by decide)
  · next heq =>
    cases heq
    exact absurd hc (by decide)
  · rw [h]
    rfl

end Years

theorem year?_yearText (year : Int) (hrest : EndsDigits rest) :
    year? ((yearText year).toList ++ rest) = some (year, rest) := by
  by_cases hdigits : 0 ≤ year ∧ year ≤ 9999
  · have htext : yearText year = padded 4 year.toNat := if_pos hdigits
    have hlength : (padded 4 year.toNat).toList.length = 4 :=
      length_padded_of_lt (by decide) (by omega)
    have hnumber := number?_padded (Nat.le_of_eq hlength) hrest
    rw [htext, year?_digits (fun _ => isDigit_of_mem_padded) (padded_ne_nil _ _) hnumber,
      Int.toNat_of_nonneg hdigits.1]
  · have hnumber : number? ((padded 4 year.natAbs).toList ++ rest).length
        ((padded 4 year.natAbs).toList ++ rest) = some (year.natAbs, rest) :=
      number?_padded (by simp) hrest
    rw [toList_yearText hdigits, List.cons_append]
    unfold yearSign
    split
    · rw [year?_minus hnumber, show -(year.natAbs : Int) = year by omega]
    · rw [year?_plus hnumber, show (year.natAbs : Int) = year by omega]

theorem mark?_cons (c : Char) (cs : List Char) : mark? c (c :: cs) = some cs :=
  if_pos rfl

theorem civil?_dateText (hrest : EndsDigits rest) :
    civil? ((dateText d).toList ++ rest) = some (d.civil, rest) := by
  have hbounds := d.civil_bounds
  have hhyphen : ∀ cs, EndsDigits ('-' :: cs) := fun cs => endsDigits_cons (by decide)
  rw [toList_dateText, civil?]
  simp only [List.append_assoc, List.cons_append, Option.bind_eq_bind, year?_yearText _ (hhyphen _),
    Option.bind_some, mark?_cons, field?_padded (show d.civil.month < 100 by omega) (hhyphen _),
    field?_padded (show d.civil.dayOfMonth < 100 by omega) hrest]
  rfl

theorem parseDate?_dateText (d : Date) : parseDate? (dateText d) = some d := by
  have hcivil : civil? (dateText d).toList = some (d.civil, []) := by
    simpa using civil?_dateText (d := d) endsDigits_nil
  rw [parseDate?, hcivil]
  exact d.ofCivil?_civil

/-- A clock shows a leap second as number 60 of its minute, which tells it from the second it
follows. -/
theorem second_of_clock (ht : EndsMinute t) :
    t.second / 3600 * 3600 + t.second / 60 % 60 * 60 + min (t.second % 60 + t.leap.toNat) 59 =
      t.second ∧
      decide (t.second % 60 + t.leap.toNat = 60) = t.leap := by
  unfold EndsMinute at ht
  cases hleap : t.leap
  · simp only [Bool.toNat_false, decide_eq_false_iff_not]
    omega
  · have hlast := ht hleap
    simp only [Bool.toNat_true, decide_eq_true_eq]
    omega

theorem time?_timeText (ht : EndsMinute t) :
    time? (timeText t).toList = some ((t.second, t.leap), []) := by
  have hlt := t.second_lt
  have hleap := t.leap.toNat_le
  have hcolon : ∀ cs, EndsDigits (':' :: cs) := fun cs => endsDigits_cons (by decide)
  have hsecond : field? (padded 2 (t.second % 60 + t.leap.toNat)).toList =
      some (t.second % 60 + t.leap.toNat, []) := by
    simpa using field?_padded (show t.second % 60 + t.leap.toNat < 100 by omega) endsDigits_nil
  obtain ⟨htotal, hmark⟩ := second_of_clock ht
  rw [toList_timeText, time?]
  simp only [Option.bind_eq_bind, field?_padded (show t.second / 3600 < 100 by omega) (hcolon _),
    field?_padded (show t.second / 60 % 60 < 100 by omega) (hcolon _), Option.bind_some, mark?_cons,
    hsecond]
  rw [if_neg (by simp; omega), htotal, hmark]
  rfl

/-- An instant is read back from its text, where a `T` separates the date and the time. -/
theorem parseTimestamp?_timestampText (ht : EndsMinute t) :
    parseTimestamp? (timestampText t) = some t := by
  have hcivil : civil? (timestampText t).toList = some (t.date.civil,
      'T' :: (timeText t).toList) := by
    rw [toList_timestampText]
    exact civil?_dateText (endsDigits_cons (by decide))
  have hread : parseDateTime? (mark? 'T') (timestampText t) = some t := by
    simp only [parseDateTime?, Option.bind_eq_bind, hcivil, Option.bind_some, mark?_cons,
      time?_timeText ht, t.date.ofCivil?_civil, List.isEmpty_nil, Bool.not_true, Bool.false_eq_true,
      if_false, dif_pos t.second_lt]
    rfl
  rw [parseTimestamp?, hread]
  rfl

end Fixtures.Calendar
