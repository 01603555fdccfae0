import Fixtures.Proofs.Numeric.Nearest

namespace Fixtures.Binary64

open Float.Model Float.Model.UnpackedFloat

variable {m n j : Nat} {sign : Sign}

/-- What is shifted out: the last bit is kept, and whether any bit before it is set. -/
theorem shiftRight_exact (m k : Nat) : ExtendedMantissa.mk m false false >>> (k + 1) =
    ExtendedMantissa.mk (m / twoTo (k + 1)) (m / twoTo k % 2 != 0) (m % twoTo k != 0) := by
  induction k with
  | zero =>
    simp [HShiftRight.hShiftRight, Nat.repeat, ExtendedMantissa.shiftRightOne, twoTo, Nat.mod_one]
  | succ k ih =>
    have hdiv : m / twoTo (k + 1) / 2 = m / twoTo (k + 2) := by
      rw [Nat.div_div_eq_div_mul, twoTo_succ (k + 1), Nat.mul_comm]
    have hzero : m % twoTo (k + 1) = 0 ↔ m / twoTo k % 2 = 0 ∧ m % twoTo k = 0 := by
      rw [twoTo_succ, Nat.mul_comm, Nat.mod_mul, Nat.add_eq_zero_iff, Nat.mul_eq_zero, and_comm]
      have := twoTo_pos k
      omega
    show ExtendedMantissa.shiftRightOne (ExtendedMantissa.mk m false false >>> (k + 1)) = _
    rw [ih, ExtendedMantissa.shiftRightOne, hdiv, ExtendedMantissa.mk.injEq]
    refine ⟨rfl, rfl, ?_⟩
    rw [Bool.eq_iff_iff]
    simp only [Bool.or_eq_true, bne_iff_ne, ne_eq, hzero]
    omega

theorem roundedMantissa_mk (m : Nat) (half more : Bool) :
    (ExtendedMantissa.mk m half more).roundedMantissa =
      if half then if more then m + 1 else m + m % 2 else m := by
  cases half <;> cases more <;> rfl

theorem roundedMantissa_shiftRight (m k : Nat) :
    (ExtendedMantissa.mk m false false >>> k).roundedMantissa = evenQuotient m (twoTo k) := by
  cases k with
  | zero => exact ((Nat.mul_one m) ▸ evenQuotient_mul_right m Nat.one_pos).symm
  | succ k =>
    have hpos := twoTo_pos k
    have hmod : m % twoTo (k + 1) = m % twoTo k + twoTo k * (m / twoTo k % 2) := by
      rw [twoTo_succ, Nat.mul_comm, Nat.mod_mul]
    have hlt := Nat.mod_lt m hpos
    rw [shiftRight_exact, roundedMantissa_mk]
    unfold evenQuotient
    rw [hmod, twoTo_succ]
    simp only [bne_iff_ne, ne_eq]
    rcases Nat.mod_two_eq_zero_or_one (m / twoTo k) with hlow | hhigh
    · rw [hlow, Nat.mul_zero, Nat.add_zero, if_neg (not_not_intro rfl), if_pos (by omega)]
    · rw [hhigh, Nat.mul_one, if_pos Nat.one_ne_zero]
      by_cases hzero : m % twoTo k = 0
      · simp [hzero]
      · rw [if_pos hzero, if_neg (by omega), if_pos (by omega)]

inductive Holds : UnpackedFloat → Int → Prop
  | zero : Holds (.zero .positive) 0
  | finite (sign : Sign) {m v k : Nat} (hpos : 0 < m) (hlow : twoTo 52 ≤ m) (hhigh : m < twoTo 53)
      (heq : m * twoTo k = v * twoTo 52) : Holds (.finite sign m (k - 52) hpos) (sign.apply v)

theorem log2_eq {k : Nat} (hlow : twoTo k ≤ m) (hhigh : m < twoTo (k + 1)) : m.log2 = k := by
  have hne : m ≠ 0 := by
    have := twoTo_pos k
    omega
  exact (Nat.log2_eq_iff hne).mpr ⟨hlow, hhigh⟩

theorem shiftToTargetExponent_exact {e : Int} {k : Nat}
    (h : max ((m.log2 : Int) + e - 52) (-1074) = e + k) :
    shiftToTargetExponent Format.binary64 m e .exact =
      (ExtendedMantissa.mk m false false >>> k, e + k) := by
  have htarget : (Format.binary64.targetExponent (totalExponent m e) - e).toNat = k := by
    show (max ((m.log2 : Int) + 1 + e - 53) (-1074) - e).toNat = k
    omega
  show (ExtendedMantissa.mk m false false >>> _, e + ((_ : Nat) : Int)) = _
  rw [htarget]

theorem roundWithAccuracy_eq {e first last : Int} {bits : Nat} {em rounded : ExtendedMantissa}
    (hfirst : shiftToTargetExponent Format.binary64 m e .exact = (em, first))
    (hlast : shiftToTargetExponent Format.binary64 em.roundedMantissa first .exact =
      (rounded, last))
    (hbits : rounded.mantissa = bits) (hpos : 0 < bits) :
    roundWithAccuracy Format.binary64 sign m e .exact = .finite sign bits last hpos := by
  subst hbits
  unfold roundWithAccuracy
  rw [hfirst]
  dsimp only
  rw [hlast]
  dsimp only
  rw [dif_neg (Nat.ne_of_gt hpos)]

theorem evenQuotient_scaled (hj : 52 ≤ n.log2 + j) :
    evenQuotient (n * twoTo j) (twoTo (n.log2 + j - 52)) * twoTo n.log2 =
      nearestNat n * twoTo 52 := by
  rcases Nat.le_total n.log2 52 with hsmall | hlarge
  · have hle : n ≤ twoTo 53 := Nat.le_trans (Nat.le_of_lt (lt_twoTo_log2 n)) (twoTo_le (by omega))
    have hscaled : n * twoTo j = n * twoTo (52 - n.log2) * twoTo (n.log2 + j - 52) := by
      rw [Nat.mul_assoc, ← twoTo_add]
      congr 2
      omega
    rw [hscaled, evenQuotient_mul_right _ (twoTo_pos _), nearestNat_of_le hle, Nat.mul_assoc,
      ← twoTo_add]
    congr 2
    omega
  · have hscaled : twoTo (n.log2 + j - 52) = spacing n * twoTo j := by
      rw [spacing, ← twoTo_add]
      congr 1
      omega
    have hlog : twoTo n.log2 = spacing n * twoTo 52 := by
      rw [spacing, ← twoTo_add]
      congr 1
      omega
    rw [hscaled, evenQuotient_mul_mul _ _ (twoTo_pos _), hlog, nearestNat, Nat.mul_assoc]

theorem holds_roundWithAccuracy (hn : n ≠ 0) (hj : 52 ≤ n.log2 + j) :
    Holds (roundWithAccuracy Format.binary64 sign (n * twoTo j) (-j) .exact)
      (sign.apply (nearestNat n)) := by
  have hlow : twoTo (n.log2 + j) ≤ n * twoTo j := by
    rw [twoTo_add]
    exact Nat.mul_le_mul_right _ (twoTo_log2_le hn)
  have hhigh : n * twoTo j < twoTo (n.log2 + j + 1) := by
    rw [Nat.add_right_comm, twoTo_add]
    exact Nat.mul_lt_mul_of_pos_right (lt_twoTo_log2 n) (twoTo_pos j)
  have hfirst := shiftToTargetExponent_exact (m := n * twoTo j) (e := -j) (k := n.log2 + j - 52)
    (by rw [log2_eq hlow hhigh]; omega)
  have hexponent : -(j : Int) + ((n.log2 + j - 52 : Nat) : Int) = n.log2 - 52 := by omega
  rw [hexponent] at hfirst
  have hvalue := evenQuotient_scaled hj
  have hrounded := roundedMantissa_shiftRight (n * twoTo j) (n.log2 + j - 52)
  have hlow' : twoTo 52 ≤ evenQuotient (n * twoTo j) (twoTo (n.log2 + j - 52)) := by
    refine le_evenQuotient (twoTo_pos _) ?_
    rw [← twoTo_add, show 52 + (n.log2 + j - 52) = n.log2 + j by omega]
    exact hlow
  have hhigh' : evenQuotient (n * twoTo j) (twoTo (n.log2 + j - 52)) ≤ twoTo 53 := by
    refine evenQuotient_le (twoTo_pos _) ?_
    rw [← twoTo_add, show 53 + (n.log2 + j - 52) = n.log2 + j + 1 by omega]
    exact Nat.le_of_lt hhigh
  generalize evenQuotient (n * twoTo j) (twoTo (n.log2 + j - 52)) = bits
    at hvalue hrounded hlow' hhigh'
  rcases Nat.lt_or_eq_of_le hhigh' with hlt | rfl
  · have hlast := shiftToTargetExponent_exact (m := bits) (e := n.log2 - 52) (k := 0)
      (by rw [log2_eq hlow' hlt]; omega)
    have hpos : 0 < bits := Nat.lt_of_lt_of_le (twoTo_pos 52) hlow'
    rw [← hrounded] at hlast
    rw [roundWithAccuracy_eq hfirst hlast hrounded hpos, Int.natCast_zero, Int.add_zero]
    exact .finite sign hpos hlow' hlt hvalue
  · -- Rounding up gave one bit too many, which is zero.
    have hlast := shiftToTargetExponent_exact (m := twoTo 53) (e := n.log2 - 52) (k := 1)
      (by rw [log2_eq (k := 53) (Nat.le_refl _) (by decide)]; omega)
    rw [← hrounded] at hlast
    have hbits : (ExtendedMantissa.mk (twoTo 53) false false >>> 1).mantissa = twoTo 52 := by decide
    rw [roundWithAccuracy_eq hfirst hlast (hrounded ▸ hbits) (by decide),
      show (n.log2 : Int) - 52 + (1 : Nat) = ((n.log2 + 1 : Nat) : Int) - 52 by omega]
    refine .finite sign _ (by decide) (by decide) ?_
    rw [← hvalue, twoTo_succ n.log2, ← Nat.mul_assoc]
    rfl

theorem unpackSign_packComponents {spec : Format} (exponent : BitVec spec.exponentBits)
    (bits : BitVec spec.mantissaBitsWithoutImplicit) :
    unpackSign (packComponents spec sign exponent bits) = sign.toBitVec := by
  ext i hi
  obtain rfl : i = 0 := by omega
  show (BitVec.cast _ (BitVec.extractLsb _ _ (packComponents spec sign exponent bits)))[0] = _
  simp [packComponents, BitVec.getLsbD_append, BitVec.getElem_append]

theorem ofBitVec_toBitVec (sign : Sign) : Sign.ofBitVec sign.toBitVec = sign := by
  cases sign <;> rfl

theorem toNat_one_append (bits : BitVec 52) : (1#1 ++ bits).toNat = twoTo 52 + bits.toNat := by
  rw [BitVec.toNat_append, ← Nat.shiftLeft_add_eq_or_of_lt bits.isLt]
  rfl

theorem finite_congr {sign' : Sign} {m m' : Nat} {e e' : Int} {hm : 0 < m} {hm' : 0 < m'}
    (hsign : sign = sign') (h : m = m') (he : e = e') :
    UnpackedFloat.finite sign m e hm = .finite sign' m' e' hm' := by
  subst hsign h he
  rfl

/-- What is unpacked from an exponent that stands for neither small nor special numbers. -/
theorem unpack_packComponents (spec : Format) (sign : Sign) (exponent : BitVec spec.exponentBits)
    (bits : BitVec spec.mantissaBitsWithoutImplicit) (hones : exponent ≠ -1#_)
    (hzero : exponent ≠ 0#_) (hm : (1#1 ++ bits).toNat = m) (hpos : 0 < m) :
    UnpackedFloat.unpack spec (packComponents spec sign exponent bits) =
      .finite sign m (exponent.toNat - (spec.exponentBias + spec.mantissaBitsWithoutImplicit))
        hpos := by
  have hexponent : unpackExponent (packComponents spec sign exponent bits) = exponent :=
    unpackExponent_packComponents
  unfold UnpackedFloat.unpack
  dsimp only
  rw [if_neg (by rwa [hexponent]), if_neg (by rwa [hexponent])]
  refine finite_congr ?_ ?_ (by rw [hexponent])
  · rw [unpackSign_packComponents, ofBitVec_toBitVec]
  · rw [unpackMantissa_packComponents, hm]

theorem unpack_pack_finite {e : Int} (hpos : 0 < m) (hlow : twoTo 52 ≤ m) (hhigh : m < twoTo 53)
    (hmin : -1074 ≤ e) (hmax : e ≤ 971) :
    (Float.Model.pack (.finite sign m e hpos)).unpack = .finite sign m e hpos := by
  have hbiased :
    (e + Format.binary64.exponentBias + Format.binary64.mantissaBitsWithoutImplicit).toNat =
      (e + 1075).toNat := by
    show (e + (1023 : Nat) + (52 : Nat)).toNat = _
    omega
  have hpacked : UnpackedFloat.pack Format.binary64 (.finite sign m e hpos) =
      packComponents Format.binary64 sign (BitVec.ofNat 11 (e + 1075).toNat)
      (BitVec.ofNat 52 m) := by
    unfold UnpackedFloat.pack
    dsimp only
    rw [hbiased, if_neg (show ¬ 2 ^ 11 ≤ _ by omega), if_pos (by rw [log2_eq hlow hhigh]; rfl)]
  have hexponent : (BitVec.ofNat 11 (e + 1075).toNat).toNat = (e + 1075).toNat := by
    rw [BitVec.toNat_ofNat, Nat.mod_eq_of_lt (by omega)]
  have hmantissa : (1#1 ++ BitVec.ofNat 52 m).toNat = m := by
    have htwo : twoTo 53 = twoTo 52 + twoTo 52 := by decide
    rw [toNat_one_append, BitVec.toNat_ofNat]
    show twoTo 52 + m % twoTo 52 = m
    rw [Nat.mod_eq_sub_mod hlow, Nat.mod_eq_of_lt (by omega)]
    omega
  have hother : ∀ special : BitVec 11, (e + 1075).toNat ≠ special.toNat →
      BitVec.ofNat 11 (e + 1075).toNat ≠ special :=
    fun special hne heq => hne (hexponent.symm.trans (congrArg BitVec.toNat heq))
  have hones := hother (-1#11) (show (e + 1075).toNat ≠ 2047 by omega)
  have hzero := hother 0#11 (show (e + 1075).toNat ≠ 0 by omega)
  show UnpackedFloat.unpack Format.binary64 (UnpackedFloat.pack Format.binary64 _) = _
  have hunpack := unpack_packComponents Format.binary64 sign (BitVec.ofNat 11 (e + 1075).toNat)
    (BitVec.ofNat 52 m) hones hzero hmantissa hpos
  rw [hpacked, hunpack]
  refine finite_congr rfl rfl ?_
  show ((BitVec.ofNat 11 (e + 1075).toNat).toNat : Int) - ((1023 : Nat) + (52 : Nat)) = e
  rw [hexponent]
  omega

variable {f g : UnpackedFloat} {v w : Int}

theorem twoTo_le_of_bits {bits v k : Nat} (hlow : twoTo 52 ≤ bits)
    (heq : bits * twoTo k = v * twoTo 52) :
    twoTo k ≤ v := by
  have hmul : twoTo k * twoTo 52 ≤ v * twoTo 52 := by
    rw [← heq, Nat.mul_comm]
    exact Nat.mul_le_mul_right _ hlow
  exact Nat.le_of_mul_le_mul_right hmul (twoTo_pos 52)

theorem exponent_le_of_bits {bits v k : Nat} (hlow : twoTo 52 ≤ bits)
    (heq : bits * twoTo k = v * twoTo 52) (hv : v ≤ twoTo 64) : k ≤ 64 :=
  (Nat.pow_le_pow_iff_right (by decide)).mp (Nat.le_trans (twoTo_le_of_bits hlow heq) hv)

theorem natAbs_apply (v : Nat) : (sign.apply v).natAbs = v := by
  cases sign
  · exact Int.natAbs_neg _
  · rfl

theorem Holds.unpack_pack (h : Holds f v) (hv : v.natAbs < twoTo 1024) :
    (Float.Model.pack f).unpack = f := by
  cases h with
  | zero => rfl
  | @finite sign m v k hpos hlow hhigh heq =>
    rw [natAbs_apply] at hv
    have hk : k < 1024 := Nat.lt_of_not_le fun hle =>
      Nat.not_lt.mpr (Nat.le_trans (twoTo_le hle) (twoTo_le_of_bits hlow heq)) hv
    exact unpack_pack_finite hpos hlow hhigh (by omega) (by omega)

theorem Holds.neg (h : Holds f v) (hv : v ≠ 0) : Holds f.neg (-v) := by
  cases h with
  | zero => exact absurd rfl hv
  | finite sign hpos hlow hhigh heq =>
    cases sign with
    | negative =>
      have := Holds.finite .positive hpos hlow hhigh heq
      rwa [show Sign.apply .positive _ = -Sign.apply .negative _ from (Int.neg_neg _).symm] at this
    | positive => exact Holds.finite .negative hpos hlow hhigh heq

theorem Holds.nearest_eq (h : Holds f v) : nearest v = v := by
  cases h with
  | zero => rfl
  | @finite sign m v k hpos hlow hhigh heq =>
    have hlower : twoTo k ≤ v := twoTo_le_of_bits hlow heq
    have hupper : v < twoTo (k + 1) := by
      refine Nat.lt_of_mul_lt_mul_right (a := twoTo 52) ?_
      rw [← heq, ← twoTo_add, show k + 1 + 52 = 53 + k by omega, twoTo_add]
      exact Nat.mul_lt_mul_of_pos_right hhigh (twoTo_pos k)
    have hnearest : nearestNat v = v := by
      refine nearestNat_of_dvd ?_
      rw [spacing, log2_eq hlower hupper]
      rcases Nat.le_total k 52 with hsmall | hlarge
      · rw [Nat.sub_eq_zero_of_le hsmall]
        exact Nat.one_dvd v
      · refine ⟨m, Nat.eq_of_mul_eq_mul_right (twoTo_pos 52) ?_⟩
        rw [← heq, Nat.mul_right_comm, ← twoTo_add, Nat.sub_add_cancel hlarge, Nat.mul_comm]
    cases sign with
    | positive => exact congrArg Int.ofNat hnearest
    | negative =>
      show nearest (-(v : Int)) = -v
      rw [nearest_neg_natCast, hnearest]

theorem Holds.isFinite (h : Holds f v) : f.isFinite = true := by
  cases h <;> rfl

section Order

variable {bits bits' v v' k k' : Nat}

theorem pos_of_bits (hpos : 0 < bits) (heq : bits * twoTo k = v * twoTo 52) : 0 < v := by
  have hmul : 0 < v * twoTo 52 := heq ▸ Nat.mul_pos hpos (twoTo_pos k)
  exact Nat.pos_of_mul_pos_right hmul

theorem lt_of_exponent_lt (hhigh : bits < twoTo 53) (hlow : twoTo 52 ≤ bits') (h : k < k')
    (heq : bits * twoTo k = v * twoTo 52) (heq' : bits' * twoTo k' = v' * twoTo 52) : v < v' := by
  refine Nat.lt_of_mul_lt_mul_right (a := twoTo 52) ?_
  calc
    v * twoTo 52 = bits * twoTo k := heq.symm
    _ < twoTo 53 * twoTo k := Nat.mul_lt_mul_of_pos_right hhigh (twoTo_pos k)
    _ = twoTo 52 * twoTo (k + 1) := by
      rw [← twoTo_add, ← twoTo_add, Nat.add_comm k 1, ← Nat.add_assoc]
    _ ≤ bits' * twoTo k' := Nat.mul_le_mul hlow (twoTo_le h)
    _ = v' * twoTo 52 := heq'

theorem lt_of_bits_lt (h : bits < bits') (heq : bits * twoTo k = v * twoTo 52)
    (heq' : bits' * twoTo k = v' * twoTo 52) : v < v' := by
  refine Nat.lt_of_mul_lt_mul_right (a := twoTo 52) ?_
  rw [← heq, ← heq']
  exact Nat.mul_lt_mul_of_pos_right h (twoTo_pos k)

theorem compare_parts (hlow : twoTo 52 ≤ bits) (hhigh : bits < twoTo 53) (hlow' : twoTo 52 ≤ bits')
    (hhigh' : bits' < twoTo 53) (heq : bits * twoTo k = v * twoTo 52)
    (heq' : bits' * twoTo k' = v' * twoTo 52) :
    (compare ((k : Int) - 52) ((k' : Int) - 52)).then (compare bits bits') =
      compare (v : Int) (v' : Int) := by
  rcases Nat.lt_trichotomy k k' with hlt | rfl | hgt
  · have hv := lt_of_exponent_lt hhigh hlow' hlt heq heq'
    rw [Int.compare_eq_lt.mpr (by omega), Int.compare_eq_lt.mpr (by omega)]
    rfl
  · rw [Int.compare_eq_eq.mpr rfl, Ordering.eq_then]
    rcases Nat.lt_trichotomy bits bits' with hlt | rfl | hgt
    · have hv := lt_of_bits_lt hlt heq heq'
      rw [Nat.compare_eq_lt.mpr hlt, Int.compare_eq_lt.mpr (by omega)]
    · have hv : v = v' := Nat.eq_of_mul_eq_mul_right (twoTo_pos 52) (heq.symm.trans heq')
      rw [Nat.compare_eq_eq.mpr rfl, Int.compare_eq_eq.mpr (by omega)]
    · have hv := lt_of_bits_lt hgt heq' heq
      rw [Nat.compare_eq_gt.mpr hgt, Int.compare_eq_gt.mpr (by omega)]
  · have hv := lt_of_exponent_lt hhigh' hlow hgt heq' heq
    rw [Int.compare_eq_gt.mpr (by omega), Int.compare_eq_gt.mpr (by omega)]
    rfl

end Order

theorem compare_neg_neg (a b : Int) : compare (-a) (-b) = compare b a := by
  rw [Int.compare_eq_ite_lt, Int.compare_eq_ite_lt]
  simp only [Int.neg_lt_neg_iff]

theorem Holds.compare (hf : Holds f v) (hg : Holds g w) : f.compare g = some (compare v w) := by
  cases hf with
  | zero =>
    cases hg with
    | zero => rfl
    | @finite sign _ w _ hpos _ _ heq =>
      have hw := pos_of_bits hpos heq
      cases sign with
      | negative => exact congrArg some (Int.compare_eq_gt.mpr (show -(w : Int) < 0 by omega)).symm
      | positive => exact congrArg some (Int.compare_eq_lt.mpr (show 0 < (w : Int) by omega)).symm
  | @finite sign _ v _ hpos hlow hhigh heq =>
    have hv := pos_of_bits hpos heq
    cases hg with
    | zero =>
      cases sign with
      | negative => exact congrArg some (Int.compare_eq_lt.mpr (show -(v : Int) < 0 by omega)).symm
      | positive => exact congrArg some (Int.compare_eq_gt.mpr (show 0 < (v : Int) by omega)).symm
    | @finite sign' _ w _ hpos' hlow' hhigh' heq' =>
      have hw := pos_of_bits hpos' heq'
      have hcompare := compare_parts hlow hhigh hlow' hhigh' heq heq'
      have hless : (-(v : Int)) < w := by omega
      have hmore : (-(w : Int)) < v := by omega
      cases sign <;> cases sign'
      · refine congrArg some ?_
        show Ordering.swap _ = Ord.compare (-(v : Int)) (-(w : Int))
        rw [hcompare, Int.compare_swap, compare_neg_neg]
      · exact congrArg some (Int.compare_eq_lt.mpr hless).symm
      · exact congrArg some (Int.compare_eq_gt.mpr hmore).symm
      · exact congrArg some hcompare

end Fixtures.Binary64
