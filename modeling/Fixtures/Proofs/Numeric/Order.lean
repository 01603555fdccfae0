import Fixtures.Numeric.Binary64

namespace Fixtures.Binary64

open Float.Model

variable {f g : UnpackedFloat} {x y : Float}

theorem compare_swap (f g : UnpackedFloat) : (f.compare g).map Ordering.swap = g.compare f := by
  cases f with
  | notANumber => cases g <;> rfl
  | infinity s =>
    cases g with
    | infinity s' => cases s <;> cases s' <;> rfl
    | notANumber | zero s' | finite s' m e _ => cases s <;> rfl
  | zero s =>
    cases g with
    | notANumber | zero s' => rfl
    | infinity s' | finite s' m e _ => cases s' <;> rfl
  | finite s m e _ =>
    cases g with
    | notANumber => rfl
    | infinity s' => cases s' <;> cases s <;> rfl
    | zero s' => cases s <;> rfl
    | finite s' m' e' _ =>
      have hswap : ((Ord.compare e e').then (Ord.compare m m')).swap =
          (Ord.compare e' e).then (Ord.compare m' m) := by
        rw [Ordering.swap_then, Int.compare_swap, Nat.compare_swap]
      cases s <;> cases s'
      · exact congrArg (some ∘ Ordering.swap) hswap
      · rfl
      · rfl
      · exact congrArg some hswap

theorem exists_compare (hf : f.isNaN = false) (hg : g.isNaN = false) :
    ∃ o, f.compare g = some o := by
  cases f with
  | notANumber => cases hf
  | infinity s | zero s | finite s m e _ =>
    cases g with
    | notANumber => cases hg
    | infinity s' | zero s' | finite s' m' e' _ => cases s <;> cases s' <;> exact ⟨_, rfl⟩

theorem compare_self (hf : f.isNaN = false) : f.compare f = some .eq := by
  cases f with
  | notANumber => cases hf
  | infinity s => cases s <;> rfl
  | zero s => rfl
  | finite s m e _ =>
    have heq : (Ord.compare e e).then (Ord.compare m m) = .eq := by
      rw [Int.compare_eq_eq.mpr rfl, Nat.compare_eq_eq.mpr rfl]
      rfl
    cases s with
    | negative => exact congrArg (some ∘ Ordering.swap) heq
    | positive => exact congrArg some heq

theorem lt_iff_compare (x y : Float) :
    x < y ↔ x.toModel.unpack.compare y.toModel.unpack = some .lt := by
  show decide (_ = true) = true ↔ _
  rw [decide_eq_true_eq]
  exact beq_iff_eq

theorem le_iff_compare (x y : Float) :
    x ≤ y ↔ (x.toModel.unpack.compare y.toModel.unpack).any Ordering.isLE = true := by
  show decide (_ = true) = true ↔ _
  rw [decide_eq_true_eq]
  rfl

theorem beq_iff_compare (x y : Float) :
    (x == y) = true ↔ x.toModel.unpack.compare y.toModel.unpack = some .eq := by
  show ((_ : Option Ordering) == some .eq) = true ↔ _
  exact beq_iff_eq

theorem compare?_eq_compare (x y : Float) :
    compare? x y = x.toModel.unpack.compare y.toModel.unpack := by
  unfold compare?
  simp only [lt_iff_compare, beq_iff_compare]
  rw [← compare_swap x.toModel.unpack]
  cases x.toModel.unpack.compare y.toModel.unpack with
  | none => rfl
  | some o => cases o <;> rfl

theorem exists_compare? (hx : x.isNaN = false) (hy : y.isNaN = false) :
    ∃ o, compare? x y = some o := by
  rw [compare?_eq_compare]
  exact exists_compare hx hy

theorem compare?_self (hx : x.isNaN = false) : compare? x x = some .eq := by
  rw [compare?_eq_compare]
  exact compare_self hx

end Fixtures.Binary64
