import Fixtures.Proofs.Numeric.Order
import Fixtures.Proofs.Numeric.Rounding

namespace Fixtures.Binary64

open Float.Model Float.Model.UnpackedFloat

variable {n j : Nat} {f : UnpackedFloat} {v a b : Int} {x : Float} {p : Parts}

theorem nearestNat_le (h : n ≤ twoTo 64) : nearestNat n ≤ twoTo 64 := by
  have hpower : nearestNat (twoTo 64) = twoTo 64 := nearestNat_of_dvd (by decide)
  exact hpower ▸ nearestNat_mono h

theorem nearestNat_lt (h : n ≤ twoTo 64) : nearestNat n < twoTo 1024 :=
  Nat.lt_of_le_of_lt (nearestNat_le h) (twoTo_lt (by decide))

theorem holds_pack_round (hn : n ≠ 0) (hj : 52 ≤ n.log2 + j) (hle : n ≤ twoTo 64) :
    Holds
      (Float.Model.pack
        (roundWithAccuracy Format.binary64 .positive (n * twoTo j) (-j) .exact)).unpack
      (nearestNat n) := by
  have hholds : Holds (roundWithAccuracy Format.binary64 .positive (n * twoTo j) (-j) .exact)
      (nearestNat n) :=
    holds_roundWithAccuracy hn hj
  rw [hholds.unpack_pack (nearestNat_lt hle)]
  exact hholds

theorem holds_ofNat_of_large (hlarge : twoTo 53 ≤ n) (hle : n ≤ twoTo 64) :
    Holds (Float.ofNat n).toModel.unpack (nearestNat n) := by
  have hn : n ≠ 0 := by
    rintro rfl
    revert hlarge
    decide
  have hmodel : Float.ofNat n = Float.ofModel (Float.Model.ofScientific n 0) := by
    show Float.ofScientific n false 0 = _
    unfold Float.ofScientific
    rw [dif_neg (fun h => absurd h.1 (Nat.not_lt.mpr hlarge))]
    rfl
  have hround : UnpackedFloat.ofScientific Format.binary64 n 0 =
      roundWithAccuracy Format.binary64 .positive (n * twoTo 53) (-(53 : Nat)) .exact := by
    unfold UnpackedFloat.ofScientific
    rw [dif_neg hn, if_neg (by decide),
      if_neg (by show ¬ (0 : Int) < -((2 ^ 11 : Int) + n.log2); omega), if_pos (by decide)]
    unfold UnpackedFloat.mul
    have hbits : n <<< Format.binary64.mantissaBits * 10 ^ (0 : Int).toNat = n * twoTo 53 := by
      show n <<< 53 * 1 = _
      rw [Nat.mul_one, Nat.shiftLeft_eq]
      rfl
    simp only [hbits]
    rfl
  rw [hmodel]
  show Holds (Float.Model.pack (UnpackedFloat.ofScientific Format.binary64 n 0)).unpack _
  rw [hround]
  exact holds_pack_round hn (by omega) hle

theorem round_natCast (hlog : n.log2 ≤ 52) : UnpackedFloat.round Format.binary64 .positive n 0 =
    roundWithAccuracy Format.binary64 .positive (n * twoTo (52 - n.log2)) (-(52 - n.log2 :
        Nat)) .exact := by
  have hshift : ((0 : Int) - Format.binary64.targetExponent (totalExponent n 0)).toNat =
      52 - n.log2 := by
    show ((0 : Int) - max ((n.log2 : Int) + 1 + 0 - 53) (-1074)).toNat = _
    omega
  have hdecrease : decreaseExponent n 0 (Format.binary64.targetExponent (totalExponent n 0)) =
      (n * twoTo (52 - n.log2), -((52 - n.log2 : Nat) : Int)) := by
    unfold decreaseExponent
    simp only [hshift]
    rw [Nat.shiftLeft_eq, Int.zero_sub]
    rfl
  unfold UnpackedFloat.round
  simp only [hdecrease]

theorem holds_toUInt64_toFloat (hn : n ≠ 0) (hsmall : n < twoTo 53) :
    Holds n.toUInt64.toFloat.toModel.unpack n := by
  have hlog : n.log2 ≤ 52 := Nat.le_of_lt_succ ((Nat.log2_lt hn).mpr hsmall)
  have hword : n.toUInt64.toNat = n := UInt64.toNat_ofNat_of_lt' (Nat.lt_trans hsmall (by decide))
  have hround : UnpackedFloat.ofUInt64 Format.binary64 n.toUInt64 =
      UnpackedFloat.round Format.binary64 .positive n 0 := by
    unfold UnpackedFloat.ofUInt64 UnpackedFloat.ofNat UnpackedFloat.ofInt UnpackedFloat.normalize
    rw [hword, Int.compare_eq_gt.mpr (by omega : (0 : Int) < n)]
    rfl
  have hle : n ≤ twoTo 64 := Nat.le_trans (Nat.le_of_lt hsmall) (by decide)
  have hholds := holds_pack_round (j := 52 - n.log2) hn (by omega) hle
  rw [nearestNat_of_le (Nat.le_of_lt hsmall), ← round_natCast hlog, ← hround] at hholds
  exact hholds

theorem Holds.mul_one (hf : Holds f n) (hn : n ≠ 0) (hle : n ≤ twoTo 64) :
    Holds (Float.Model.pack (UnpackedFloat.mul Format.binary64 f
      (.finite .positive (twoTo 52) (-52) (twoTo_pos 52)))).unpack (nearestNat n) := by
  generalize hv : (n : Int) = v at hf
  cases hf with
  | zero => omega
  | @finite sign bits v k hpos hlow hhigh heq =>
    have hvpos := pos_of_bits hpos heq
    cases sign with
    | negative => simp only [Sign.apply] at hv; omega
    | positive =>
      obtain rfl : n = v := Int.ofNat.inj hv
      have hk := exponent_le_of_bits hlow heq hle
      have hbits : bits * twoTo 52 = n * twoTo (104 - k) := by
        refine Nat.eq_of_mul_eq_mul_right (twoTo_pos k) ?_
        rw [Nat.mul_right_comm, heq, Nat.mul_assoc, ← twoTo_add, Nat.mul_assoc, ← twoTo_add,
          show 104 - k + k = 52 + 52 by omega]
      have hlog := (Nat.le_log2 hn).mpr (twoTo_le_of_bits hlow heq)
      have hexponent : (k : Int) - 52 + -52 = -((104 - k : Nat) : Int) := by omega
      show Holds (Float.Model.pack (roundWithAccuracy Format.binary64 .positive (bits * twoTo 52)
        ((k : Int) - 52 + -52) .exact)).unpack _
      rw [hbits, hexponent]
      exact holds_pack_round hn (by omega) hle

theorem holds_ofNat_of_small (hn : n ≠ 0) (hsmall : n < twoTo 53) :
    Holds (Float.ofNat n).toModel.unpack (nearestNat n) := by
  have hproduct : Float.ofNat n = n.toUInt64.toFloat * Float.ofBits 0x3FF0000000000000 := by
    show Float.ofScientific n false 0 = _
    unfold Float.ofScientific
    rw [dif_pos ⟨hsmall, by decide⟩]
    rfl
  have hone : (Float.ofBits 0x3FF0000000000000).toModel.unpack =
      .finite .positive (twoTo 52) (-52) (twoTo_pos 52) := by
    rfl
  have hfactor := holds_toUInt64_toFloat hn hsmall
  rw [hproduct]
  show Holds (Float.Model.pack (UnpackedFloat.mul Format.binary64 n.toUInt64.toFloat.toModel.unpack
    (Float.ofBits 0x3FF0000000000000).toModel.unpack)).unpack (nearestNat n)
  rw [hone]
  exact hfactor.mul_one hn (Nat.le_trans (Nat.le_of_lt hsmall) (by decide))

theorem holds_ofNat (hn : n ≤ twoTo 64) : Holds (Float.ofNat n).toModel.unpack (nearestNat n) := by
  by_cases hzero : n = 0
  · subst hzero
    have : (Float.ofNat 0).toModel.unpack = .zero .positive := by rfl
    rw [this]
    exact .zero
  · rcases Nat.lt_or_ge n (twoTo 53) with hsmall | hlarge
    · exact holds_ofNat_of_small hzero hsmall
    · exact holds_ofNat_of_large hlarge hn

theorem isFinite_ofNat (hn : n ≤ twoTo 64) : (Float.ofNat n).isFinite = true :=
  (holds_ofNat hn).isFinite

theorem holds_ofInt (ha : a.natAbs ≤ twoTo 64) :
    Holds (Float.ofInt a).toModel.unpack (nearest a) := by
  cases a with
  | ofNat n => exact holds_ofNat ha
  | negSucc n =>
    have hpos : 0 < nearestNat (n + 1) :=
      Nat.lt_of_lt_of_le (twoTo_pos _) (nearestNat_bounds (Nat.succ_ne_zero n)).1
    have hlt : nearestNat (n + 1) < twoTo 1024 := nearestNat_lt ha
    have hneg := (holds_ofNat (n := n + 1) ha).neg (Int.natCast_ne_zero.mpr (Nat.ne_of_gt hpos))
    show Holds (Float.Model.pack (Float.ofNat (n + 1)).toModel.unpack.neg).unpack _
    rw [hneg.unpack_pack (by rw [Int.natAbs_neg]; exact hlt)]
    exact hneg

theorem compare_unpack (ha : a.natAbs ≤ twoTo 64) (hb : b.natAbs ≤ twoTo 64) :
    (Float.ofInt a).toModel.unpack.compare (Float.ofInt b).toModel.unpack =
      some (compare (nearest a) (nearest b)) :=
  (holds_ofInt ha).compare (holds_ofInt hb)

theorem ofInt_lt_ofInt (ha : a.natAbs ≤ twoTo 64) (hb : b.natAbs ≤ twoTo 64) :
    Float.ofInt a < Float.ofInt b ↔ nearest a < nearest b := by
  rw [lt_iff_compare, compare_unpack ha hb, Option.some_inj, Int.compare_eq_lt]

theorem ofInt_le_ofInt (ha : a.natAbs ≤ twoTo 64) (hb : b.natAbs ≤ twoTo 64) :
    Float.ofInt a ≤ Float.ofInt b ↔ nearest a ≤ nearest b := by
  rw [le_iff_compare, compare_unpack ha hb, Option.any_some, Int.isLE_compare]

theorem compare?_ofInt (ha : a.natAbs ≤ twoTo 64) (hb : b.natAbs ≤ twoTo 64) :
    compare? (Float.ofInt a) (Float.ofInt b) = some (compare (nearest a) (nearest b)) := by
  rw [compare?_eq_compare, compare_unpack ha hb]

def partsOf : UnpackedFloat → Option Parts
  | .notANumber | .infinity _ => none
  | .zero sign => some ⟨sign == .negative, 0, -1074⟩
  | .finite sign m e _ => some ⟨sign == .negative, m, e⟩

theorem toNat_unpackMantissa (b : BitVec Format.binary64.numBits) :
    (unpackMantissa b).toNat = b.toNat % twoTo 52 := by
  unfold unpackMantissa
  rw [BitVec.toNat_cast, BitVec.extractLsb_toNat, Nat.shiftRight_zero]
  rfl

theorem toNat_unpackExponent (b : BitVec Format.binary64.numBits) :
    (unpackExponent b).toNat = b.toNat / twoTo 52 % twoTo 11 := by
  unfold unpackExponent
  rw [BitVec.toNat_cast, BitVec.extractLsb_toNat, Nat.shiftRight_eq_div_pow]
  rfl

theorem toNat_unpackSign (b : BitVec Format.binary64.numBits) :
    (unpackSign b).toNat = b.toNat / twoTo 63 := by
  show (BitVec.cast _ (BitVec.extractLsb _ _ b)).toNat = _
  rw [BitVec.toNat_cast, BitVec.extractLsb_toNat, Nat.shiftRight_eq_div_pow]
  exact Nat.mod_eq_of_lt (Nat.div_lt_of_lt_mul b.isLt)

theorem ofBitVec_beq_negative (bit : BitVec 1) :
    (Sign.ofBitVec bit == .negative) = (bit.toNat == 1) := by
  rcases BitVec.eq_zero_or_eq_one bit with rfl | rfl <;> rfl

theorem parts?_eq (x : Float) : parts? x = partsOf x.toModel.unpack := by
  let b : BitVec Format.binary64.numBits := x.toModel.toBits.toBitVec
  let exponent := unpackExponent b
  let mantissa := unpackMantissa b
  have hexponent : exponent.toNat = x.toBits.toNat / twoTo 52 % twoTo 11 := toNat_unpackExponent b
  have hmantissa : mantissa.toNat = x.toBits.toNat % twoTo 52 := toNat_unpackMantissa b
  have hsign : (Sign.ofBitVec (unpackSign b) == .negative) = (x.toBits.toNat / twoTo 63 == 1) := by
    rw [ofBitVec_beq_negative, toNat_unpackSign]
    rfl
  have hones : exponent = -1#_ ↔ exponent.toNat = 2047 := BitVec.toNat_inj.symm
  have hnone : exponent = 0#_ ↔ exponent.toNat = 0 := BitVec.toNat_inj.symm
  have hunpack : x.toModel.unpack = UnpackedFloat.unpack Format.binary64 b := rfl
  unfold parts?
  simp only [← hexponent, ← hmantissa, ← hsign]
  rw [hunpack]
  unfold UnpackedFloat.unpack
  by_cases hall : exponent = -1#_
  · rw [if_pos (hones.mp hall), if_pos hall]
    split <;> rfl
  · rw [if_neg (mt hones.mpr hall), if_neg hall]
    by_cases hlow : exponent = 0#_
    · rw [if_pos (hnone.mp hlow), if_pos hlow]
      by_cases hzero : mantissa = 0#_
      · have hfraction : mantissa.toNat = 0 := by
          rw [hzero]
          rfl
        rw [dif_pos hzero, hfraction]
        rfl
      · rw [dif_neg hzero]
        show _ = some (Parts.mk _ _ ((exponent.toNat : Int) - ((1023 : Nat) + (52 : Nat)) + 1))
        rw [hnone.mp hlow]
        rfl
    · rw [if_neg (mt hnone.mpr hlow), if_neg hlow]
      show _ = some (Parts.mk _ (1#1 ++
        mantissa).toNat ((exponent.toNat : Int) - ((1023 : Nat) + (52 : Nat))))
      rw [toNat_one_append, Nat.add_comm]
      rfl

theorem exists_parts?_of_isFinite (h : x.isFinite = true) : ∃ p, parts? x = some p := by
  rw [parts?_eq]
  change x.toModel.unpack.isFinite = true at h
  cases hunpack : x.toModel.unpack with
  | infinity sign | notANumber =>
    rw [hunpack] at h
    cases h
  | zero sign | finite sign m e _ => exact ⟨_, rfl⟩

structure Parts.IsInt (p : Parts) (v : Int) : Prop where
  whole : 0 ≤ p.exponent → p.signed * twoTo p.exponent.toNat = v
  scaled : p.exponent < 0 → p.signed = v * twoTo (-p.exponent).toNat
  negative : p.negative = true → v ≠ 0

theorem Parts.IsInt.floor (h : p.IsInt v) : p.floor = v := by
  unfold Parts.floor
  split
  · next hwhole => exact h.whole hwhole
  · next hscaled =>
    rw [h.scaled (by omega)]
    exact Int.mul_ediv_cancel _ (Int.natCast_ne_zero.mpr (Nat.ne_of_gt (twoTo_pos _)))

theorem Parts.IsInt.ceil (h : p.IsInt v) : p.ceil = v := by
  unfold Parts.ceil
  split
  · next hwhole => exact h.whole hwhole
  · next hscaled =>
    rw [h.scaled (by omega), ← Int.neg_mul,
      Int.mul_ediv_cancel _ (Int.natCast_ne_zero.mpr (Nat.ne_of_gt (twoTo_pos _))), Int.neg_neg]

theorem Parts.IsInt.trunc (h : p.IsInt v) : p.trunc = v := by
  unfold Parts.trunc
  split
  · exact h.ceil
  · exact h.floor

theorem apply_natCast_mul (sign : Sign) (m n : Nat) :
    sign.apply (m * n : Nat) = sign.apply m * n := by
  cases sign with
  | negative =>
    show -((m * n : Nat) : Int) = -(m : Int) * n
    rw [Int.neg_mul, Int.natCast_mul]
  | positive => exact Int.natCast_mul m n

theorem Holds.exists_parts (h : Holds f v) : ∃ p, partsOf f = some p ∧ p.IsInt v := by
  cases h with
  | zero => exact ⟨_, rfl, nofun, fun _ => (Int.zero_mul _).symm, nofun⟩
  | @finite sign m v k hpos hlow hhigh heq =>
    have hv := pos_of_bits hpos heq
    have hsigned : ∀ e : Int, (Parts.mk (sign == .negative) m e).signed = sign.apply m := by
      cases sign <;> exact fun e => rfl
    refine ⟨_, rfl, fun hwhole => ?_, fun hscaled => ?_, fun _ => ?_⟩
    · have hle : 52 ≤ k := by
        have : (0 : Int) ≤ (k : Int) - 52 := hwhole
        omega
      have hmul : m * twoTo (k - 52) = v := by
        refine Nat.eq_of_mul_eq_mul_right (twoTo_pos 52) ?_
        rw [Nat.mul_assoc, ← twoTo_add, Nat.sub_add_cancel hle, heq]
      rw [hsigned, show ((k : Int) - 52).toNat = k - 52 by omega, ← hmul, apply_natCast_mul]
    · have hle : k ≤ 52 := by
        have : (k : Int) - 52 < 0 := hscaled
        omega
      have hmul : m = v * twoTo (52 - k) := by
        refine Nat.eq_of_mul_eq_mul_right (twoTo_pos k) ?_
        rw [Nat.mul_assoc, ← twoTo_add, Nat.sub_add_cancel hle, heq]
      rw [hsigned, show (-((k : Int) - 52)).toNat = 52 - k by omega, hmul, apply_natCast_mul]
    · cases sign <;> simp only [Sign.apply] <;> omega

theorem toIntegral_of_holds {pick : Parts → Int} (hpick : ∀ p, p.IsInt v → pick p = v)
    (h : Holds x.toModel.unpack v) : toIntegral pick x = Float.ofInt v := by
  obtain ⟨p, hp, hint⟩ := h.exists_parts
  unfold toIntegral
  rw [parts?_eq, hp]
  simp only [hpick p hint]
  refine if_neg ?_
  rw [Bool.and_eq_true, decide_eq_true_eq]
  exact fun hzero => hint.negative hzero.2 hzero.1

theorem toInt64_of_holds (h : Holds x.toModel.unpack v) : toInt64 x = clampInt64 v := by
  obtain ⟨p, hp, hint⟩ := h.exists_parts
  unfold toInt64
  rw [parts?_eq, hp]
  simp only [hint.trunc]

theorem ceil_ofInt (ha : a.natAbs ≤ twoTo 64) : ceil (Float.ofInt a) = Float.ofInt (nearest a) :=
  toIntegral_of_holds (fun _ => Parts.IsInt.ceil) (holds_ofInt ha)

theorem toInt64_ofInt (ha : a.natAbs ≤ twoTo 64) :
    toInt64 (Float.ofInt a) = clampInt64 (nearest a) :=
  toInt64_of_holds (holds_ofInt ha)

theorem nearest_nearest (ha : a.natAbs ≤ twoTo 64) : nearest (nearest a) = nearest a :=
  (holds_ofInt ha).nearest_eq

theorem natAbs_nearest_le (ha : a.natAbs ≤ twoTo 64) : (nearest a).natAbs ≤ twoTo 64 := by
  rw [natAbs_nearest]
  exact nearestNat_le ha

end Fixtures.Binary64
