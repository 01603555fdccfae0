import Mathlib.Algebra.Order.Field.Power
import Mathlib.Data.Nat.Cast.Order.Field
import Mathlib.Tactic.Linarith
import Mathlib.Tactic.Positivity
import Mathlib.Tactic.Ring
import Fixtures.Numeric.Shortest
import Fixtures.Proofs.Numeric.Nearest

namespace Fixtures

namespace Binary64.Parts

variable {p q : Parts} {v : ℚ}

def magnitude (p : Parts) : ℚ :=
  p.mantissa * 2 ^ p.exponent

/-- Half of the gap before a number. It is narrower where the exponent changes. -/
def below (p : Parts) : ℚ :=
  if p.mantissa = twoTo 52 ∧ -1074 < p.exponent then 2 ^ p.exponent / 4 else 2 ^ p.exponent / 2

def above (p : Parts) : ℚ :=
  2 ^ p.exponent / 2

/-- What rounds to a number. Ends are shared with the neighbours and go to the even one. -/
structure Owns (p : Parts) (v : ℚ) : Prop where
  low : p.magnitude - p.below ≤ v
  high : v ≤ p.magnitude + p.above
  odd : p.mantissa % 2 = 1 → p.magnitude - p.below < v ∧ v < p.magnitude + p.above

structure IsNormal (p : Parts) : Prop where
  bits : p.mantissa < twoTo 53
  least : -1074 ≤ p.exponent
  full : -1074 < p.exponent → twoTo 52 ≤ p.mantissa

theorem below_le (p : Parts) : p.below ≤ 2 ^ p.exponent / 2 := by
  have hpos : (0 : ℚ) < 2 ^ p.exponent := by positivity
  unfold below
  split <;> linarith

theorem below_pos (p : Parts) : 0 < p.below := by
  unfold below
  split <;> positivity

theorem above_pos (p : Parts) : 0 < p.above := by
  unfold above
  positivity

theorem twoTo_52 : (twoTo 52 : ℚ) = 4503599627370496 := by
  norm_num [twoTo]

/-- All that a number owns comes before all that a number with a greater exponent owns. -/
theorem Owns.not_of_exponent_lt (hp : p.IsNormal) (hq : q.IsNormal) (hlt : p.exponent < q.exponent)
    (h : p.Owns v) : ¬ q.Owns v := by
  intro h'
  have hleast : -1074 < q.exponent := Int.lt_of_le_of_lt hp.least hlt
  have hfull := hq.full hleast
  have hpos : (0 : ℚ) < 2 ^ p.exponent := by positivity
  have hdouble : (2 : ℚ) * 2 ^ p.exponent ≤ 2 ^ q.exponent := by
    rw [← zpow_one_add₀ two_ne_zero]
    exact zpow_le_zpow_right₀ one_le_two (by omega)
  have hlow : (4503599627370496 - 1 / 4 : ℚ) * 2 ^ q.exponent ≤ v := by
    refine le_trans ?_ h'.low
    unfold magnitude below
    split
    · next heq =>
      rw [heq.1, twoTo_52]
      linarith
    · next hne =>
      have hmore : twoTo 52 + 1 ≤ q.mantissa := by
        have : q.mantissa ≠ twoTo 52 := fun heq => hne ⟨heq, hleast⟩
        omega
      have hcast : (4503599627370496 + 1 : ℚ) ≤ q.mantissa := by
        rw [← twoTo_52]
        exact_mod_cast hmore
      nlinarith
  have hbits : p.mantissa < 9007199254740992 := hp.bits
  have hhigh := h.high
  have hodd := h.odd
  unfold magnitude above at hhigh hodd
  rcases Nat.mod_two_eq_zero_or_one p.mantissa with heven | hodd'
  · have hcast : (p.mantissa : ℚ) ≤ 9007199254740990 := by
      exact_mod_cast (show p.mantissa ≤ 9007199254740990 by omega)
    nlinarith
  · have hcast : (p.mantissa : ℚ) ≤ 9007199254740991 := by
      exact_mod_cast (show p.mantissa ≤ 9007199254740991 by omega)
    have hstrict := (hodd hodd').2
    nlinarith

theorem Owns.not_of_mantissa_lt (hexponent : p.exponent = q.exponent)
    (hlt : p.mantissa < q.mantissa) (h : p.Owns v) : ¬ q.Owns v := by
  intro h'
  have hpos : (0 : ℚ) < 2 ^ q.exponent := by positivity
  have hbelow := q.below_le
  have hhigh := h.high
  have hlow := h'.low
  have hodd := h.odd
  have hodd' := h'.odd
  unfold magnitude above at hhigh hodd
  unfold magnitude at hlow hodd'
  rw [hexponent] at hhigh hodd
  have hcast : (p.mantissa + 1 : ℚ) ≤ q.mantissa := by exact_mod_cast hlt
  have hends : (p.mantissa : ℚ) * 2 ^ q.exponent + 2 ^ q.exponent ≤
    q.mantissa * 2 ^ q.exponent := by nlinarith
  rcases Nat.mod_two_eq_zero_or_one p.mantissa with heven | hp
  · rcases Nat.mod_two_eq_zero_or_one q.mantissa with heven' | hq
    · have hmore : (p.mantissa + 2 : ℚ) ≤ q.mantissa := by
        exact_mod_cast (show p.mantissa + 2 ≤ q.mantissa by omega)
      nlinarith
    · linarith [(hodd' hq).1]
  · linarith [(hodd hp).2]

theorem Owns.unique (hp : p.IsNormal) (hq : q.IsNormal) (h : p.Owns v) (h' : q.Owns v) :
    p.mantissa = q.mantissa ∧ p.exponent = q.exponent := by
  rcases lt_trichotomy p.exponent q.exponent with hlt | hexponent | hgt
  · exact (h.not_of_exponent_lt hp hq hlt h').elim
  · refine ⟨?_, hexponent⟩
    rcases lt_trichotomy p.mantissa q.mantissa with hlt | hmantissa | hgt
    · exact (h.not_of_mantissa_lt hexponent hlt h').elim
    · exact hmantissa
    · exact (h'.not_of_mantissa_lt hexponent.symm hgt h).elim
  · exact (h'.not_of_exponent_lt hq hp hgt h).elim

end Binary64.Parts

namespace Shortest

open Binary64

variable {p : Parts} {tie : Tie} {place top : Int} {digits count fuel num den : Nat}

def Decimal.value (d : Decimal) : ℚ :=
  d.digits * 10 ^ d.exponent

theorem pow_toNat {b : Nat} (hb : (b : ℚ) ≠ 0) (k : Int) :
    ((Nat.pow b k.toNat : Nat) : ℚ) = b ^ k * (Nat.pow b (-k).toNat : Nat) := by
  rw [Nat.pow_eq, Nat.pow_eq, Nat.cast_pow, Nat.cast_pow, ← zpow_natCast, ← zpow_natCast,
    ← zpow_add₀ hb]
  congr 1
  omega

theorem twoTo_toNat (k : Int) : (twoTo k.toNat : ℚ) = 2 ^ k * twoTo (-k).toNat :=
  pow_toNat (b := 2) two_ne_zero k

theorem tenTo_toNat (k : Int) : (tenTo k.toNat : ℚ) = 10 ^ k * tenTo (-k).toNat :=
  pow_toNat (b := 10) (by norm_num) k

theorem tenTo_pos (k : Nat) : 0 < tenTo k :=
  Nat.pow_pos (by decide)

/-- The whole numbers of a scaled number are those of the number itself, in one measure. -/
theorem exists_measure (p : Parts) (place : Int) : ∃ k : ℚ, 0 < k ∧
    ((scaled p.mantissa p.exponent place).value : ℚ) = k * p.magnitude ∧
    ((scaled p.mantissa p.exponent place).below : ℚ) = k * p.below ∧
    ((scaled p.mantissa p.exponent place).above : ℚ) = k * p.above ∧
    ((scaled p.mantissa p.exponent place).unit : ℚ) = k * 10 ^ place := by
  have hdown : (0 : ℚ) < twoTo (-(p.exponent - 2)).toNat := by exact_mod_cast twoTo_pos _
  have htenths : (0 : ℚ) < tenTo (-place).toNat := by exact_mod_cast tenTo_pos _
  have hup : (twoTo (p.exponent - 2).toNat : ℚ) =
      2 ^ p.exponent / 4 * twoTo (-(p.exponent - 2)).toNat := by
    rw [twoTo_toNat, zpow_sub₀ two_ne_zero]
    norm_num
  have htens := tenTo_toNat place
  refine ⟨twoTo (-(p.exponent - 2)).toNat * tenTo (-place).toNat, by positivity, ?_, ?_, ?_, ?_⟩
  · simp only [scaled, Parts.magnitude, Nat.cast_mul, hup]
    push_cast
    ring
  · simp only [scaled, Parts.below, Nat.cast_mul, hup, Bool.and_eq_true, decide_eq_true_eq]
    split <;> push_cast <;> ring
  · simp only [scaled, Parts.above, Nat.cast_mul, hup]
    push_cast
    ring
  · simp only [scaled, Nat.cast_mul, htens]
    ring

theorem mem_candidates_of_pick {s : Scaled} (h : s.pick tie = some digits) :
    s.candidates.1 = some digits ∨ s.candidates.2 = some digits := by
  unfold Scaled.pick at h
  generalize s.candidates = found at h ⊢
  rcases found with ⟨_ | low, _ | high⟩
  · cases h
  · exact .inr h
  · exact .inl h
  · cases tie <;> grind

theorem candidates_of_pick_eq_none {s : Scaled} (h : s.pick tie = none) :
    s.candidates.1 = none ∧ s.candidates.2 = none := by
  unfold Scaled.pick at h
  generalize s.candidates = found at h ⊢
  rcases found with ⟨_ | low, _ | high⟩
  · exact ⟨rfl, rfl⟩
  · cases h
  · cases h
  · cases tie <;> grind

/-- A multiple of the unit rounds to the number if it is no further away than the half gaps. -/
theorem owns_of_near {n : Nat} {s : Scaled} (hs : scaled p.mantissa p.exponent place = s)
    (hlow : s.value ≤ n * s.unit + s.below) (hhigh : n * s.unit ≤ s.value + s.above)
    (hodd : p.mantissa % 2 = 1 → s.value < n * s.unit + s.below ∧ n * s.unit < s.value + s.above) :
    p.Owns (n * 10 ^ place) := by
  obtain ⟨k, hk, hvalue, hbelow, habove, hunit⟩ := exists_measure p place
  rw [hs] at hvalue hbelow habove hunit
  have hlow' : k * (p.magnitude - p.below) ≤ k * (n * 10 ^ place) := by
    have hcast : (s.value : ℚ) ≤ n * s.unit + s.below := by exact_mod_cast hlow
    rw [hvalue, hunit, hbelow] at hcast
    linarith
  have hhigh' : k * (n * 10 ^ place) ≤ k * (p.magnitude + p.above) := by
    have hcast : (n * s.unit : ℚ) ≤ s.value + s.above := by exact_mod_cast hhigh
    rw [hvalue, hunit, habove] at hcast
    linarith
  refine ⟨le_of_mul_le_mul_left hlow' hk, le_of_mul_le_mul_left hhigh' hk, fun h => ?_⟩
  obtain ⟨hlow, hhigh⟩ := hodd h
  have hlow' : k * (p.magnitude - p.below) < k * (n * 10 ^ place) := by
    have hcast : (s.value : ℚ) < n * s.unit + s.below := by exact_mod_cast hlow
    rw [hvalue, hunit, hbelow] at hcast
    linarith
  have hhigh' : k * (n * 10 ^ place) < k * (p.magnitude + p.above) := by
    have hcast : (n * s.unit : ℚ) < s.value + s.above := by exact_mod_cast hhigh
    rw [hvalue, hunit, habove] at hcast
    linarith
  exact ⟨lt_of_mul_lt_mul_left hlow' hk.le, lt_of_mul_lt_mul_left hhigh' hk.le⟩

theorem scaled_pos (mantissa : Nat) (exponent place : Int) :
    0 < (scaled mantissa exponent place).unit ∧
    0 < (scaled mantissa exponent place).below ∧ 0 < (scaled mantissa exponent place).above := by
  have hup := twoTo_pos (exponent - 2).toNat
  have htenths := tenTo_pos (-place).toNat
  refine ⟨Nat.mul_pos (twoTo_pos _) (tenTo_pos _), Nat.mul_pos (Nat.mul_pos ?_ hup) htenths,
    Nat.mul_pos (Nat.mul_pos (by decide) hup) htenths⟩
  split <;> decide

theorem owns_of_pick (h : (scaled p.mantissa p.exponent place).pick tie = some digits) :
    p.Owns (digits * 10 ^ place) := by
  obtain ⟨hunit, hbelow, habove⟩ := scaled_pos p.mantissa p.exponent place
  have hclosed : (scaled p.mantissa p.exponent place).closed = decide (p.mantissa % 2 = 0) := rfl
  generalize hs : scaled p.mantissa p.exponent place = s at *
  have hfloor := Nat.div_mul_le_self s.value s.unit
  have hceil := Nat.lt_div_mul_add (a := s.value) hunit
  rcases mem_candidates_of_pick h with hlow | hhigh
  · simp only [Scaled.candidates, Option.ite_none_right_eq_some, Option.some.injEq, hclosed,
      decide_eq_true_eq] at hlow
    obtain ⟨hwithin, rfl⟩ := hlow
    refine owns_of_near hs ?_ ?_ fun hodd => ?_
    · split at hwithin <;> simp only [decide_eq_true_eq] at hwithin <;> omega
    · omega
    · rw [if_neg (by omega), decide_eq_true_eq] at hwithin
      omega
  · simp only [Scaled.candidates, Option.ite_none_right_eq_some, Option.some.injEq, hclosed,
      decide_eq_true_eq] at hhigh
    obtain ⟨hwithin, rfl⟩ := hhigh
    rw [Nat.add_mul, Nat.one_mul] at hwithin
    refine owns_of_near hs ?_ ?_ fun hodd => ?_ <;> rw [Nat.add_mul, Nat.one_mul]
    · omega
    · split at hwithin <;> simp only [decide_eq_true_eq] at hwithin <;> omega
    · rw [if_neg (by omega), decide_eq_true_eq] at hwithin
      omega

theorem exists_pick (tie : Tie) (h : (10 : ℚ) ^ place < p.below + p.above) :
    ∃ digits, (scaled p.mantissa p.exponent place).pick tie = some digits := by
  obtain ⟨k, hk, -, hbelow, habove, hunit⟩ := exists_measure p place
  obtain ⟨hpos, -, -⟩ := scaled_pos p.mantissa p.exponent place
  generalize scaled p.mantissa p.exponent place = s at *
  have hgaps : s.unit < s.below + s.above := by
    have hcast : (s.unit : ℚ) < s.below + s.above := by
      rw [hunit, hbelow, habove, ← mul_add]
      exact mul_lt_mul_of_pos_left h hk
    exact_mod_cast hcast
  have hfloor := Nat.div_mul_le_self s.value s.unit
  have hceil := Nat.lt_div_mul_add (a := s.value) hpos
  cases hpick : s.pick tie with
  | some digits => exact ⟨digits, rfl⟩
  | none =>
    obtain ⟨hlow, hhigh⟩ := candidates_of_pick_eq_none hpick
    simp only [Scaled.candidates, ite_eq_right_iff, reduceCtorEq, imp_false, Nat.add_mul,
      Nat.one_mul] at hlow hhigh
    cases hclosed : s.closed <;>
      simp only [hclosed, Bool.false_eq_true, if_false, if_true, decide_eq_true_eq]
        at hlow hhigh <;> omega

theorem owns_search (h : ∃ more < fuel, ∃ digits,
    (scaled p.mantissa p.exponent (top - (count + more : Nat))).pick tie = some digits) :
    p.Owns (search tie p.mantissa p.exponent top count fuel).value := by
  induction fuel generalizing count with
  | zero =>
    obtain ⟨more, hmore, -⟩ := h
    omega
  | succ fuel ih =>
    obtain ⟨more, hmore, digits, hpick⟩ := h
    unfold search
    dsimp only
    split
    · next found hfound => exact owns_of_pick hfound
    · next hnone =>
      cases more with
      | zero => cases hnone.symm.trans hpick
      | succ more =>
        refine ih ⟨more, by omega, digits, ?_⟩
        rwa [Nat.add_assoc, Nat.add_comm 1]

theorem value_stripZeros (digits : Nat) (exponent : Int) (fuel : Nat) :
    (stripZeros digits exponent fuel).value = digits * 10 ^ exponent := by
  induction fuel generalizing digits exponent with
  | zero => rfl
  | succ fuel ih =>
    unfold stripZeros
    split
    · next h =>
      rw [Bool.and_eq_true, decide_eq_true_eq, decide_eq_true_eq] at h
      have hdigits : (digits : ℚ) = (digits / 10 : Nat) * 10 := by
        exact_mod_cast (Nat.div_mul_cancel (Nat.dvd_of_mod_eq_zero h.2)).symm
      rw [ih, hdigits, zpow_add_one₀ (by norm_num)]
      ring
    · rfl

theorem le_mul_leadingZeros (h : den ≤ num * 10 ^ fuel) :
    den ≤ num * 10 ^ leadingZeros num den fuel := by
  induction fuel generalizing num with
  | zero => exact h
  | succ fuel ih =>
    unfold leadingZeros
    split
    · next hle => rwa [Nat.pow_zero, Nat.mul_one]
    · rw [Nat.pow_succ', ← Nat.mul_assoc]
      refine ih ?_
      rwa [Nat.mul_assoc, ← Nat.pow_succ']

theorem pow_length_digitsOf_le {n : Nat} (h : 0 < n) : 10 ^ ((digitsOf n).length - 1) ≤ n := by
  unfold digitsOf
  rcases Nat.eq_zero_or_pos ((Nat.toDigits 10 n).length - 1) with hzero | hpos
  · rw [hzero]
    exact h
  · have hmore := mt (Nat.length_toDigits_le_iff (b := 10) (n := n) (by decide) hpos).mpr (by omega)
    exact Nat.le_of_not_lt hmore

theorem zpow_magnitude_le (hden : 0 < den) (h : den ≤ num * 10 ^ 400) :
    (10 : ℚ) ^ (magnitude num den - 1) ≤ num / den := by
  have hden' : (0 : ℚ) < den := by exact_mod_cast hden
  unfold magnitude
  split
  · next hle =>
    have hquotient := Nat.div_pos hle hden
    have hpos : 0 < (digitsOf (num / den)).length := List.length_pos_iff.mpr Nat.toDigits_ne_nil
    have hexponent : ((digitsOf (num / den)).length : Int) - 1 =
      ((digitsOf (num / den)).length - 1 : Nat) := by omega
    have hpower : (10 : ℚ) ^ ((digitsOf (num / den)).length - 1) ≤ (num / den : Nat) := by
      exact_mod_cast pow_length_digitsOf_le hquotient
    rw [hexponent, zpow_natCast]
    exact hpower.trans Nat.cast_div_le
  · have hzeros : (den : ℚ) ≤ num * 10 ^ leadingZeros num den 400 := by
      exact_mod_cast le_mul_leadingZeros h
    rw [show (1 - (leadingZeros num den 400 : Int) - 1) = -(leadingZeros num den 400 : Int) by ring,
      zpow_neg, zpow_natCast, le_div_iff₀ hden', inv_mul_le_iff₀ (by positivity)]
    linarith

theorem zpow_lt_gaps (hp : p.IsNormal) (h : (10 : ℚ) ^ (top - 1) ≤ p.magnitude) :
    (10 : ℚ) ^ (top - 17) < p.below + p.above := by
  have hpos : (0 : ℚ) < 2 ^ p.exponent := by positivity
  have hgrid : (10 : ℚ) ^ (top - 1) = 10 ^ (top - 17) * 10 ^ 16 := by
    rw [← zpow_natCast, ← zpow_add₀ (by norm_num)]
    congr 1
    omega
  unfold Parts.magnitude at h
  unfold Parts.below Parts.above
  split
  · next hedge =>
    rw [hedge.1, Parts.twoTo_52] at h
    linarith
  · have hbits : (p.mantissa : ℚ) < 9007199254740992 := by
      have hlt : p.mantissa < 9007199254740992 := hp.bits
      exact_mod_cast hlt
    nlinarith

theorem magnitude_eq_div (p : Parts) : p.magnitude =
    ((p.mantissa * twoTo p.exponent.toNat : Nat) : ℚ) / (twoTo (-p.exponent).toNat : Nat) := by
  have hden : (0 : ℚ) < twoTo (-p.exponent).toNat := by exact_mod_cast twoTo_pos _
  rw [eq_div_iff hden.ne', Nat.cast_mul, twoTo_toNat p.exponent, Parts.magnitude, mul_assoc]

theorem owns_shortest (hp : p.IsNormal) (tie : Tie) :
    p.Owns (shortest tie p.mantissa p.exponent).value := by
  have hbelow := p.below_pos
  have habove := p.above_pos
  unfold shortest
  split
  · next hzero =>
    have hmagnitude : p.magnitude = 0 := by rw [Parts.magnitude, hzero, Nat.cast_zero, zero_mul]
    have hvalue : (Decimal.mk 0 0).value = 0 := by simp [Decimal.value]
    refine ⟨by linarith, by linarith, fun hodd => by omega⟩
  · next hne =>
    dsimp only
    rw [value_stripZeros]
    refine owns_search ⟨16, by decide, exists_pick tie (zpow_lt_gaps hp ?_)⟩
    rw [magnitude_eq_div]
    have hnum : 0 < p.mantissa * twoTo p.exponent.toNat :=
      Nat.mul_pos (Nat.pos_of_ne_zero hne) (twoTo_pos _)
    refine zpow_magnitude_le (twoTo_pos _) ?_
    -- No number is smaller than the least one, which is greater than the 400th power of a tenth.
    calc
      twoTo (-p.exponent).toNat ≤ twoTo 1074 := twoTo_le (by have := hp.least; omega)
      _ ≤ 10 ^ 400 := by decide +kernel
      _ ≤ _ := Nat.le_mul_of_pos_left _ hnum

end Shortest

end Fixtures
