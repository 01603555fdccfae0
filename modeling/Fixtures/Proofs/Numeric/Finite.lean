import Fixtures.Numeric.Decimal
import Fixtures.Proofs.Numeric.Integers

namespace Fixtures.Binary64

open Float.Model Float.Model.UnpackedFloat

variable {m j : Nat} {e n v : Int} {sign : Sign} {f g : UnpackedFloat} {x y : Float}

/-- Finite, with at most 53 bits and an exponent up to a bound. -/
inductive Within (n : Int) : UnpackedFloat → Prop
  | zero (sign : Sign) : Within n (.zero sign)
  | finite (sign : Sign) {m : Nat} {e : Int} (hpos : 0 < m) : m < twoTo 53 → e ≤ n →
    Within n (.finite sign m e hpos)

theorem Within.isFinite (h : Within n f) : f.isFinite = true := by
  cases h <;> rfl

theorem Within.neg (h : Within n f) : Within n f.neg := by
  cases h with
  | zero sign => exact .zero _
  | finite sign hpos hm he => exact .finite _ hpos hm he

theorem Holds.within {k : Int} (h : Holds f v) (hv : v.natAbs ≤ twoTo 64) (hk : 12 ≤ k) :
    Within k f := by
  cases h with
  | zero => exact .zero _
  | finite sign hpos hlow hhigh heq =>
    rw [natAbs_apply] at hv
    have := exponent_le_of_bits hlow heq hv
    exact .finite sign hpos hhigh (by omega)

theorem within_unpack (b : BitVec Format.binary64.numBits) (hones : unpackExponent b ≠ -1#_)
    (hmin : -1074 ≤ n) (hmax : (unpackExponent b).toNat ≤ n + 1075) :
    Within n (UnpackedFloat.unpack Format.binary64 b) := by
  unfold UnpackedFloat.unpack
  dsimp only
  rw [if_neg hones]
  by_cases hexponent : unpackExponent b = 0#_
  · rw [if_pos hexponent]
    by_cases hmantissa : unpackMantissa b = 0#_
    · rw [dif_pos hmantissa]
      exact .zero _
    · rw [dif_neg hmantissa]
      refine .finite _ _ (Nat.lt_trans (unpackMantissa b).isLt (by decide)) ?_
      rw [hexponent]
      exact hmin
  · rw [if_neg hexponent]
    refine .finite _ _ (1#1 ++ unpackMantissa b).isLt ?_
    show ((unpackExponent b).toNat : Int) - ((1023 : Nat) + (52 : Nat)) ≤ n
    omega

theorem within_packComponents {exponent : BitVec 11} {bits : BitVec 52} (hmin : -1074 ≤ n)
    (hmax : n ≤ 971) (hexponent : exponent.toNat ≤ n + 1075) :
    Within n (UnpackedFloat.unpack Format.binary64
        (packComponents Format.binary64 sign exponent bits)) := by
  have hsame : unpackExponent (packComponents Format.binary64 sign exponent bits) = exponent :=
    unpackExponent_packComponents
  refine within_unpack _ ?_ hmin (by rw [hsame]; exact hexponent)
  rw [hsame]
  intro hones
  have hnat : exponent.toNat = 2047 := congrArg BitVec.toNat hones
  omega

theorem biased_eq (e : Int) :
    (e + Format.binary64.exponentBias + Format.binary64.mantissaBitsWithoutImplicit).toNat =
    (e + 1075).toNat := by
  show (e + (1023 : Nat) + (52 : Nat)).toNat = _
  omega

theorem within_pack_finite {hpos : 0 < m} (hmin : -1074 ≤ n) (hmax : n ≤ 971)
    (he : (e + 1075).toNat ≤ n + 1075) :
    Within n (Float.Model.pack (.finite sign m e hpos)).unpack := by
  show Within n (UnpackedFloat.unpack Format.binary64 (UnpackedFloat.pack Format.binary64 _))
  unfold UnpackedFloat.pack
  dsimp only
  rw [biased_eq, if_neg (show ¬ 2 ^ 11 ≤ _ by omega)]
  split
  · refine within_packComponents hmin hmax ?_
    have hle := Nat.mod_le (e + 1075).toNat (2 ^ 11)
    rw [BitVec.toNat_ofNat]
    omega
  · refine within_packComponents hmin hmax ?_
    show ((0 : Nat) : Int) ≤ n + 1075
    omega

theorem Within.unpack_pack (h : Within n f) (hmin : -1074 ≤ n) (hmax : n ≤ 971) :
    Within n (Float.Model.pack f).unpack := by
  cases h with
  | zero sign => cases sign <;> exact .zero _
  | @finite sign m e hpos hm he =>
    refine within_pack_finite hmin hmax ?_
    omega

theorem isFinite_unpack_pack (hf : f.isFinite = true)
    (hinf : (Float.Model.pack f).unpack.isInf = false) :
    (Float.Model.pack f).unpack.isFinite = true := by
  cases f with
  | notANumber | infinity sign => cases hf
  | zero sign => cases sign <;> rfl
  | finite sign m e hpos =>
    rcases Nat.lt_or_ge (e + 1075).toNat 2047 with hsmall | hlarge
    · exact (within_pack_finite (n := 971) (by decide) (by decide) (by omega)).isFinite
    · have hpacked : UnpackedFloat.pack Format.binary64 (.finite sign m e hpos) =
          packedInfinity Format.binary64 sign := by
        unfold UnpackedFloat.pack
        dsimp only
        rw [biased_eq, if_pos (show 2 ^ 11 ≤ _ by omega)]
      have hinfinite : (UnpackedFloat.unpack Format.binary64
          (packedInfinity Format.binary64 sign)).isInf = true := by
        cases sign <;> rfl
      rw [← hpacked] at hinfinite
      exact absurd (hinf.symm.trans hinfinite) (by decide)

theorem within_of_isFinite (h : x.isFinite = true) : Within 971 x.toModel.unpack := by
  let b : BitVec Format.binary64.numBits := x.toModel.toBits.toBitVec
  have hfinite : (UnpackedFloat.unpack Format.binary64 b).isFinite = true := h
  have hspecial : unpackExponent b ≠ -1#_ := by
    intro hones
    unfold UnpackedFloat.unpack at hfinite
    dsimp only at hfinite
    rw [if_pos hones] at hfinite
    split at hfinite <;> cases hfinite
  have hones : (unpackExponent b).toNat ≠ 2047 := fun heq => hspecial (BitVec.eq_of_toNat_eq heq)
  have hbound : (unpackExponent b).toNat < 2 ^ 11 := BitVec.isLt _
  exact within_unpack b hspecial (by decide) (by omega)

theorem isFinite_neg (h : x.isFinite = true) : (-x).isFinite = true :=
  ((within_of_isFinite h).neg.unpack_pack (by decide) (by decide)).isFinite

theorem log2_le_of_lt {k : Nat} (h : m < twoTo (k + 1)) : m.log2 ≤ k := by
  by_cases hzero : m = 0
  · rw [hzero]
    exact Nat.zero_le k
  · exact Nat.le_of_lt_succ ((Nat.log2_lt hzero).mpr h)

def shiftOf (m : Nat) (e : Int) : Nat :=
  (max ((m.log2 : Int) + e - 52) (-1074) - e).toNat

theorem mantissa_shiftRight (em : ExtendedMantissa) (k : Nat) :
    (em >>> k).mantissa = em.mantissa / twoTo k := by
  induction k with
  | zero => exact (Nat.div_one _).symm
  | succ k ih =>
    show (em >>> k).mantissa / 2 = _
    rw [ih, Nat.div_div_eq_div_mul, twoTo_succ, Nat.mul_comm]

theorem roundedMantissa_le (em : ExtendedMantissa) : em.roundedMantissa ≤ em.mantissa + 1 := by
  obtain ⟨m, half, more⟩ := em
  rw [roundedMantissa_mk]
  split
  · split
    · exact Nat.le_refl _
    · have := Nat.mod_lt m (y := 2) (by decide)
      dsimp only
      omega
  · exact Nat.le_succ m

theorem shiftToTargetExponent_eq (m : Nat) (e : Int) (accuracy : Accuracy) :
    shiftToTargetExponent Format.binary64 m e accuracy =
      (ExtendedMantissa.ofMantissaAndAccuracy m accuracy >>> shiftOf m e, e + shiftOf m e) := by
  have hshift : (Format.binary64.targetExponent (totalExponent m e) - e).toNat = shiftOf m e := by
    show (max ((m.log2 : Int) + 1 + e - 53) (-1074) - e).toNat = _
    unfold shiftOf
    omega
  show (_ >>> _, e + ((_ : Nat) : Int)) = _
  rw [hshift]

theorem mantissa_ofMantissaAndAccuracy (m : Nat) (accuracy : Accuracy) :
    (ExtendedMantissa.ofMantissaAndAccuracy m accuracy).mantissa = m := by
  rcases accuracy with _ | (_ | _ | _) <;> rfl

theorem div_shiftOf_lt (m : Nat) (e : Int) : m / twoTo (shiftOf m e) < twoTo 53 := by
  rw [Nat.div_lt_iff_lt_mul (twoTo_pos _), ← twoTo_add]
  refine Nat.lt_of_lt_of_le (lt_twoTo_log2 m) (twoTo_le ?_)
  unfold shiftOf
  omega

theorem within_roundWithAccuracy {accuracy : Accuracy} (hmin : -1074 ≤ n) (he : e ≤ n)
    (hm : (m.log2 : Int) + e - 52 ≤ n) :
    Within (n + 1) (roundWithAccuracy Format.binary64 sign m e accuracy) := by
  have hfirst : e + shiftOf m e ≤ n := by
    unfold shiftOf
    omega
  have hbits : (ExtendedMantissa.ofMantissaAndAccuracy m accuracy >>> shiftOf m e).mantissa <
      twoTo 53 := by
    rw [mantissa_shiftRight, mantissa_ofMantissaAndAccuracy]
    exact div_shiftOf_lt m e
  have hrounded := roundedMantissa_le
    (ExtendedMantissa.ofMantissaAndAccuracy m accuracy >>> shiftOf m e)
  unfold roundWithAccuracy
  rw [shiftToTargetExponent_eq]
  dsimp only
  generalize (ExtendedMantissa.ofMantissaAndAccuracy m accuracy >>> shiftOf m e).roundedMantissa =
    bits at *
  generalize e + (shiftOf m e : Int) = first at *
  rw [shiftToTargetExponent_eq]
  dsimp only
  by_cases hzero : (ExtendedMantissa.ofMantissaAndAccuracy bits .exact >>> shiftOf bits
    first).mantissa = 0
  · rw [dif_pos hzero]
    exact .zero _
  · rw [dif_neg hzero]
    refine .finite _ _ ?_ ?_
    · rw [mantissa_shiftRight, mantissa_ofMantissaAndAccuracy]
      exact div_shiftOf_lt bits first
    · have hlog : bits.log2 ≤ 53 :=
        log2_le_of_lt (Nat.lt_of_le_of_lt (Nat.le_trans hrounded hbits) (twoTo_lt (by decide)))
      unfold shiftOf
      omega

theorem isFinite_roundWithAccuracy (accuracy : Accuracy) :
    (roundWithAccuracy Format.binary64 sign m e accuracy).isFinite = true :=
  (within_roundWithAccuracy (n :=
    max (-1074) (max e (m.log2 + e - 52))) (by omega) (by omega) (by omega)).isFinite

theorem isFinite_mul_unpacked (hf : f.isFinite = true) (hg : g.isFinite = true) :
    (UnpackedFloat.mul Format.binary64 f g).isFinite = true := by
  cases f with
  | infinity sign => cases hf
  | notANumber => cases hf
  | zero sign | finite sign m e hpos =>
    cases g with
    | infinity sign' => cases hg
    | notANumber => cases hg
    | zero sign' => rfl
    | finite sign' m' e' hpos' => first | rfl | exact isFinite_roundWithAccuracy .exact

theorem isFinite_mul (hx : x.isFinite = true) (hy : y.isFinite = true)
    (hinf : (x * y).isInf = false) :
    (x * y).isFinite = true :=
  isFinite_unpack_pack (isFinite_mul_unpacked hx hy) hinf

theorem within_div (hf : Within n f) (hg : Holds g v) (hv : v ≠ 0) (hmin : -1074 ≤ n) :
    Within (n + 1) (UnpackedFloat.div Format.binary64 f g) := by
  cases hg with
  | zero => exact absurd rfl hv
  | @finite sign bits v k hpos hlow hhigh heq =>
    cases hf with
    | zero => exact .zero _
    | @finite sign' m e hpos' hm he =>
      have hlog : bits.log2 = 52 := log2_eq hlow hhigh
      have hlog' : m.log2 ≤ 52 := log2_le_of_lt hm
      have hlowest : Format.binary64.targetExponent
        (totalExponent m e - totalExponent bits (k - 52)) =
          max ((m.log2 : Int) + e - k - 53) (-1074) := by
        show max (((m.log2 : Int) + 1 + e - (bits.log2 + 1 + (k - 52))) - 53) (-1074) = _
        rw [hlog]
        omega
      show Within (n + 1) (roundWithAccuracy _ _ (divCore _ _ _ _ _).1 (divCore _ _ _ _ _).2.1
        (divCore _ _ _ _ _).2.2)
      unfold divCore
      dsimp only
      rw [hlowest]
      generalize htarget : min (e - ((k : Int) - 52)) (max ((m.log2 : Int) + e - k - 53) (-1074)) =
        target
      generalize hshift : (e - ((k : Int) - 52) - target).toNat = shift
      have hquotient : (m <<< shift / bits).log2 ≤ shift := by
        refine log2_le_of_lt ?_
        rw [Nat.div_lt_iff_lt_mul hpos, Nat.shiftLeft_eq]
        calc
          m * twoTo shift < twoTo 53 * twoTo shift :=
            Nat.mul_lt_mul_of_pos_right hm (twoTo_pos shift)
          _ = twoTo (shift + 1) * twoTo 52 := by
            rw [← twoTo_add, ← twoTo_add, Nat.add_right_comm, Nat.add_comm]
          _ ≤ twoTo (shift + 1) * bits := Nat.mul_le_mul_left _ hlow
      refine within_roundWithAccuracy hmin ?_ ?_ <;> omega

theorem nearest_one_eq (k : Nat) :
    Decimal.nearest 1 k = Float.ofModel (Float.Model.ofScientific 1 k) := by
  by_cases hk : k ≤ 22
  · have hall : ∀ k : Nat, k ≤ 22 →
        Decimal.nearest 1 (k : Int) = Float.ofModel (Float.Model.ofScientific 1 k) := by
          decide +kernel
    exact hall k hk
  · have hsign : decide ((k : Int) < 0) = false := decide_eq_false (by omega)
    rw [Decimal.nearest, hsign, Int.natAbs_natCast]
    unfold Float.ofScientific
    rw [dif_neg fun h => hk h.2]
    rfl

theorem tenTo_le {j k : Nat} (h : j ≤ k) : tenTo j ≤ tenTo k :=
  Nat.pow_le_pow_right (by decide) h

theorem tenTo_ne_zero (k : Nat) : tenTo k ≠ 0 :=
  Nat.ne_of_gt (Nat.pow_pos (by decide))

theorem nearestNat_power_lt {k : Nat} (hk : k ≤ 308) : nearestNat (tenTo k) < twoTo 1024 := by
  have hlarge : nearestNat ((twoTo 53 - 1) * twoTo 971) = (twoTo 53 - 1) * twoTo 971 :=
    nearestNat_of_dvd (by decide +kernel)
  calc
    nearestNat (tenTo k) ≤ nearestNat (tenTo 308) := nearestNat_mono (tenTo_le hk)
    _ ≤ nearestNat ((twoTo 53 - 1) * twoTo 971) := nearestNat_mono (by decide +kernel)
    _ = (twoTo 53 - 1) * twoTo 971 := hlarge
    _ < twoTo 1024 := by decide +kernel

/-- The powers of ten that do not exceed all finite numbers are the integers nearest to them. -/
theorem holds_power {k : Nat} (hk : k ≤ 308) :
    Holds (Decimal.nearest 1 k).toModel.unpack (nearestNat (tenTo k)) := by
  have hround : UnpackedFloat.ofScientific Format.binary64 1 k =
      roundWithAccuracy Format.binary64 .positive (tenTo k * twoTo 53) (-(53 : Nat)) .exact := by
    unfold UnpackedFloat.ofScientific
    rw [dif_neg Nat.one_ne_zero, if_neg (by show ¬ (k : Int) > 2 ^ 11; omega),
      if_neg (by show ¬ (k : Int) < -((2 ^ 11 : Int) + (1 : Nat).log2); omega), if_pos (by omega),
      Nat.mul_comm]
    rfl
  have hholds : Holds (roundWithAccuracy Format.binary64 .positive (tenTo k * twoTo 53)
    (-(53 : Nat)) .exact)
      (nearestNat (tenTo k)) :=
    holds_roundWithAccuracy (tenTo_ne_zero k) (by omega)
  rw [nearest_one_eq]
  show Holds (Float.Model.pack (UnpackedFloat.ofScientific Format.binary64 1 k)).unpack _
  rw [hround, hholds.unpack_pack (nearestNat_power_lt hk)]
  exact hholds

theorem nearestNat_ne_zero (h : m ≠ 0) : (nearestNat m : Int) ≠ 0 := by
  have := (nearestNat_bounds h).1
  have := twoTo_pos m.log2
  omega

theorem within_div_power {k : Nat} (hk : k ≤ 308) (hx : Within n x.toModel.unpack)
    (hmin : -1074 ≤ n) (hmax : n < 971) : Within (n + 1) (x / Decimal.nearest 1 k).toModel.unpack :=
  (within_div hx (holds_power hk) (nearestNat_ne_zero (tenTo_ne_zero k)) hmin).unpack_pack
  (by omega) (by omega)

theorem isFinite_power {k : Nat} (hk : k ≤ 308) : (Decimal.nearest 1 k).isFinite = true :=
  (holds_power hk).isFinite

end Fixtures.Binary64
