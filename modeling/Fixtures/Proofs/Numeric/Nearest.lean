import Fixtures.Numeric.Binary64

namespace Fixtures.Binary64

variable {m n d k : Nat}

/-- The integer nearest to a quotient; of two that are equally near, the even one. -/
def evenQuotient (n d : Nat) : Nat :=
  if 2 * (n % d) < d then n / d
  else if d < 2 * (n % d) then n / d + 1
  else n / d + n / d % 2

/-- How far the numbers with 53 significant bits are apart, at a number. -/
def spacing (n : Nat) : Nat :=
  twoTo (n.log2 - 52)

def nearestNat (n : Nat) : Nat :=
  evenQuotient n (spacing n) * spacing n

def nearest : Int → Int
  | .ofNat n => nearestNat n
  | .negSucc n => -(nearestNat (n + 1) : Int)

theorem twoTo_pos (k : Nat) : 0 < twoTo k :=
  Nat.two_pow_pos k

theorem twoTo_succ (k : Nat) : twoTo (k + 1) = 2 * twoTo k :=
  Nat.pow_succ'

theorem twoTo_add (j k : Nat) : twoTo (j + k) = twoTo j * twoTo k :=
  Nat.pow_add 2 j k

theorem twoTo_le {j k : Nat} (h : j ≤ k) : twoTo j ≤ twoTo k :=
  Nat.pow_le_pow_right (by decide) h

theorem twoTo_lt {j k : Nat} (h : j < k) : twoTo j < twoTo k :=
  Nat.pow_lt_pow_right (by decide) h

theorem twoTo_log2_le (h : n ≠ 0) : twoTo n.log2 ≤ n :=
  Nat.log2_self_le h

theorem lt_twoTo_log2 (n : Nat) : n < twoTo (n.log2 + 1) :=
  Nat.lt_log2_self

theorem evenQuotient_mul_right (k : Nat) (hd : 0 < d) : evenQuotient (k * d) d = k := by
  unfold evenQuotient
  rw [Nat.mul_mod_left, if_pos (by omega), Nat.mul_div_cancel _ hd]

theorem evenQuotient_mul_mul (n d : Nat) (hk : 0 < k) :
    evenQuotient (n * k) (d * k) = evenQuotient n d := by
  have hmod : 2 * (n * k % (d * k)) = 2 * (n % d) * k := by
    rw [Nat.mul_mod_mul_right, Nat.mul_assoc]
  unfold evenQuotient
  rw [hmod, Nat.mul_div_mul_right _ _ hk]
  simp only [Nat.mul_lt_mul_right hk]

theorem evenQuotient_bounds (n d : Nat) :
    n / d ≤ evenQuotient n d ∧ evenQuotient n d ≤ n / d + 1 := by
  unfold evenQuotient
  split
  · omega
  · split <;> omega

theorem evenQuotient_mono (h : m ≤ n) : evenQuotient m d ≤ evenQuotient n d := by
  have hm := (evenQuotient_bounds m d).2
  have hn := (evenQuotient_bounds n d).1
  rcases Nat.lt_or_eq_of_le (Nat.div_le_div_right (c := d) h) with hlt | heq
  · omega
  · -- With one quotient for both, what is left of `n` is no less than what is left of `m`.
    have hmod : m % d ≤ n % d := by
      have hm := Nat.div_add_mod m d
      have hn := Nat.div_add_mod n d
      rw [heq] at hm
      omega
    unfold evenQuotient
    rw [heq]
    split <;> split <;> (try split) <;> (try split) <;> omega

theorem le_evenQuotient (hd : 0 < d) (h : k * d ≤ n) : k ≤ evenQuotient n d := by
  calc
    k = evenQuotient (k * d) d := (evenQuotient_mul_right k hd).symm
    _ ≤ evenQuotient n d := evenQuotient_mono h

theorem evenQuotient_le (hd : 0 < d) (h : n ≤ k * d) : evenQuotient n d ≤ k := by
  calc
    evenQuotient n d ≤ evenQuotient (k * d) d := evenQuotient_mono h
    _ = k := evenQuotient_mul_right k hd

theorem evenQuotient_near (n : Nat) (hd : 0 < d) :
    2 * (evenQuotient n d * d) ≤ 2 * n + d ∧ 2 * n ≤ 2 * (evenQuotient n d * d) + d := by
  have hn := Nat.div_add_mod n d
  have hmod := Nat.mod_lt n hd
  rw [Nat.mul_comm] at hn
  unfold evenQuotient
  split
  · omega
  · split
    · rw [Nat.add_mul]
      omega
    · -- The quotient lies in the middle: both neighbours are a half away.
      have hhalf : 2 * (n % d) = d := by omega
      rcases Nat.mod_two_eq_zero_or_one (n / d) with heven | hodd
      · rw [heven, Nat.add_zero]
        omega
      · rw [hodd, Nat.add_mul]
        omega

theorem nearestNat_of_dvd (h : spacing n ∣ n) : nearestNat n = n := by
  obtain ⟨k, hk⟩ := h
  unfold nearestNat
  rw [show evenQuotient n (spacing n) = k by
    conv => lhs; arg 1; rw [hk, Nat.mul_comm]
    exact evenQuotient_mul_right k (twoTo_pos _)]
  rw [Nat.mul_comm]
  exact hk.symm

theorem nearestNat_of_le (h : n ≤ twoTo 53) : nearestNat n = n := by
  refine nearestNat_of_dvd ?_
  rcases Nat.lt_or_eq_of_le h with hlt | rfl
  · have hlog : n.log2 - 52 = 0 := by
      by_cases hzero : n = 0
      · simp [hzero]
      · have := (Nat.log2_lt hzero).mpr (show n < 2 ^ 53 from hlt)
        omega
    rw [spacing, hlog]
    exact Nat.one_dvd n
  · decide

/-- A number of a power of two is between that power and the next, also where it is rounded. -/
theorem nearestNat_bounds (h : n ≠ 0) :
    twoTo n.log2 ≤ nearestNat n ∧ nearestNat n ≤ twoTo (n.log2 + 1) := by
  by_cases hsmall : n.log2 ≤ 52
  · have hle : n ≤ twoTo 53 := Nat.le_trans (Nat.le_of_lt (lt_twoTo_log2 n)) (twoTo_le (by omega))
    rw [nearestNat_of_le hle]
    exact ⟨twoTo_log2_le h, Nat.le_of_lt (lt_twoTo_log2 n)⟩
  · have hlow : twoTo n.log2 = twoTo 52 * spacing n := by
      rw [spacing, ← twoTo_add]
      congr 1
      omega
    have hhigh : twoTo (n.log2 + 1) = twoTo 53 * spacing n := by
      rw [spacing, ← twoTo_add]
      congr 1
      omega
    have hd : 0 < spacing n := twoTo_pos _
    rw [hlow, hhigh]
    constructor
    · exact Nat.mul_le_mul_right _ (le_evenQuotient hd (hlow ▸ twoTo_log2_le h))
    · exact Nat.mul_le_mul_right _ (evenQuotient_le hd (hhigh ▸ Nat.le_of_lt (lt_twoTo_log2 n)))

theorem log2_mono (h : m ≤ n) : m.log2 ≤ n.log2 := by
  by_cases hm : m = 0
  · simp [hm]
  · exact (Nat.le_log2 (by omega)).mpr (Nat.le_trans (Nat.log2_self_le hm) h)

theorem nearestNat_mono (h : m ≤ n) : nearestNat m ≤ nearestNat n := by
  rcases Nat.lt_or_eq_of_le (log2_mono h) with hlt | heq
  · -- A power of two separates them, and no number is rounded across a power of two.
    have hn : n ≠ 0 := by
      rintro rfl
      simp at hlt
    by_cases hm : m = 0
    · subst hm
      exact Nat.zero_le _
    · calc
        nearestNat m ≤ twoTo (m.log2 + 1) := (nearestNat_bounds hm).2
        _ ≤ twoTo n.log2 := twoTo_le hlt
        _ ≤ nearestNat n := (nearestNat_bounds hn).1
  · unfold nearestNat spacing
    rw [heq]
    exact Nat.mul_le_mul_right _ (evenQuotient_mono h)

theorem nearestNat_near (n : Nat) :
    2 * nearestNat n ≤ 2 * n + spacing n ∧ 2 * n ≤ 2 * nearestNat n + spacing n :=
  evenQuotient_near n (twoTo_pos _)

variable {a b : Int}

theorem nearest_natCast (n : Nat) : nearest n = nearestNat n :=
  rfl

theorem nearest_neg_natCast (n : Nat) : nearest (-n) = -nearestNat n := by
  cases n with
  | zero => decide
  | succ n => rfl

theorem nearest_mono (h : a ≤ b) : nearest a ≤ nearest b := by
  obtain ⟨m, rfl | rfl⟩ := a.eq_nat_or_neg <;> obtain ⟨n, rfl | rfl⟩ := b.eq_nat_or_neg
  · rw [nearest_natCast, nearest_natCast]
    exact Int.ofNat_le.mpr (nearestNat_mono (by omega))
  · -- Both are zero.
    obtain rfl : m = 0 := by omega
    obtain rfl : n = 0 := by omega
    decide
  · rw [nearest_natCast, nearest_neg_natCast]
    omega
  · rw [nearest_neg_natCast, nearest_neg_natCast]
    have := nearestNat_mono (show n ≤ m by omega)
    omega

theorem nearest_of_le (h : a.natAbs ≤ twoTo 53) : nearest a = a := by
  obtain ⟨n, rfl | rfl⟩ := a.eq_nat_or_neg
  · rw [nearest_natCast, nearestNat_of_le (by simpa using h)]
  · rw [nearest_neg_natCast, nearestNat_of_le (by simpa using h)]

theorem natAbs_nearest (a : Int) : (nearest a).natAbs = nearestNat a.natAbs := by
  obtain ⟨n, rfl | rfl⟩ := a.eq_nat_or_neg
  · rfl
  · rw [nearest_neg_natCast, Int.natAbs_neg, Int.natAbs_neg, Int.natAbs_natCast, Int.natAbs_natCast]

theorem nearest_le_nearest_iff : nearest a ≤ nearest b ↔ a ≤ b ∨ nearest a = nearest b := by
  constructor
  · intro h
    rcases Int.le_total a b with hab | hba
    · exact .inl hab
    · exact .inr (Int.le_antisymm h (nearest_mono hba))
  · rintro (hab | heq)
    · exact nearest_mono hab
    · exact Int.le_of_eq heq

theorem compare_nearest (a b : Int) :
    compare (nearest a) (nearest b) = if nearest a = nearest b then .eq else compare a b := by
  split
  · next heq => rw [heq, Int.compare_eq_eq.mpr rfl]
  · next hne =>
    rcases Int.lt_trichotomy a b with hlt | rfl | hgt
    · have := nearest_mono (Int.le_of_lt hlt)
      rw [Int.compare_eq_lt.mpr hlt, Int.compare_eq_lt.mpr (by omega)]
    · exact absurd rfl hne
    · have := nearest_mono (Int.le_of_lt hgt)
      rw [Int.compare_eq_gt.mpr hgt, Int.compare_eq_gt.mpr (by omega)]

theorem isInt64_iff : isInt64 a = true ↔ -9223372036854775808 ≤ a ∧ a ≤ 9223372036854775807 := by
  rw [isInt64, Bool.and_eq_true, decide_eq_true_eq, decide_eq_true_eq]
  rfl

theorem isInt64_clampInt64 (a : Int) : isInt64 (clampInt64 a) = true := by
  rw [isInt64_iff]
  unfold clampInt64 minInt64 maxInt64
  omega

theorem isInt64_toInt64 (x : Float) : isInt64 (toInt64 x) = true := by
  unfold toInt64
  split
  · exact isInt64_clampInt64 _
  · split
    · decide
    · split <;> decide

theorem natAbs_le_of_isInt64 (h : isInt64 a = true) : a.natAbs ≤ twoTo 63 := by
  rw [isInt64_iff] at h
  show a.natAbs ≤ 9223372036854775808
  omega

theorem natAbs_le (h : isInt64 a = true) : a.natAbs ≤ twoTo 64 :=
  Nat.le_trans (natAbs_le_of_isInt64 h) (by decide)

theorem nearestNat_near_of_le (h : n ≤ twoTo 63) :
    nearestNat n ≤ n + 512 ∧ n ≤ nearestNat n + 512 := by
  rcases Nat.lt_or_eq_of_le h with hlt | rfl
  · have hspacing : spacing n ≤ twoTo 10 := by
      refine twoTo_le ?_
      by_cases hzero : n = 0
      · simp [hzero]
      · have := (Nat.log2_lt hzero).mpr hlt
        omega
    have hpower : twoTo 10 = 1024 := by decide
    have := nearestNat_near n
    omega
  · rw [nearestNat_of_dvd (by decide)]
    omega

theorem nearest_near (h : isInt64 a = true) : (nearest a - a).natAbs ≤ 512 := by
  have hle := natAbs_le_of_isInt64 h
  obtain ⟨n, rfl | rfl⟩ := a.eq_nat_or_neg
  · have := nearestNat_near_of_le (n := n) (by simpa using hle)
    rw [nearest_natCast]
    omega
  · have := nearestNat_near_of_le (n := n) (by simpa using hle)
    rw [nearest_neg_natCast]
    omega

/-- Integers that are rounded to one number have more than 53 bits, and are close to each other. -/
theorem eq_or_close_of_nearest_eq (ha : isInt64 a = true) (hb : isInt64 b = true)
    (h : nearest a = nearest b) :
    a = b ∨ (twoTo 53 ≤ a.natAbs ∧ twoTo 53 ≤ b.natAbs ∧ (a - b).natAbs ≤ 1024) := by
  have hlarge : ∀ {c : Int}, twoTo 53 ≤ c.natAbs → twoTo 53 ≤ (nearest c).natAbs := by
    intro c hc
    rw [natAbs_nearest, ← nearestNat_of_le (Nat.le_refl (twoTo 53))]
    exact nearestNat_mono hc
  rcases Nat.lt_or_ge a.natAbs (twoTo 53) with hasmall | halarge
  · have hround := nearest_of_le (Nat.le_of_lt hasmall)
    rcases Nat.lt_or_ge b.natAbs (twoTo 53) with hbsmall | hblarge
    · rw [hround, nearest_of_le (Nat.le_of_lt hbsmall)] at h
      exact .inl h
    · have := hlarge hblarge
      rw [← h, hround] at this
      omega
  · rcases Nat.lt_or_ge b.natAbs (twoTo 53) with hbsmall | hblarge
    · have := hlarge halarge
      rw [h, nearest_of_le (Nat.le_of_lt hbsmall)] at this
      omega
    · have := nearest_near ha
      have := nearest_near hb
      exact .inr ⟨halarge, hblarge, by omega⟩

end Fixtures.Binary64
