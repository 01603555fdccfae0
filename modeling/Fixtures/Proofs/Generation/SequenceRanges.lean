import Mathlib.Data.Int.ModEq
import Fixtures.Generation.RowKey
import Fixtures.Generation.Sequence
import Fixtures.Proofs.Numeric.Nearest

namespace Fixtures.Generation

open Binary64

variable {b : Bounds Float} {low high n v first : Int}

/-- Numbers that are less than a width apart and differ by a multiple of it are the same. -/
theorem eq_of_modEq {m k w : Int} (h : m ≡ k [ZMOD w]) (hlow : m < k + w) (hhigh : k < m + w) :
    m = k := by
  have hzero : k - m = 0 := Int.eq_zero_of_abs_lt_dvd h.dvd (abs_lt.mpr ⟨by omega, by omega⟩)
  omega

structure ComesTo (b : Bounds Float) (low high : Int) : Prop where
  min : b.min.map lowerInt = some low
  max : b.max.map upperInt = some high
  le : low ≤ high

theorem ComesTo.isInt64_low (h : ComesTo b low high) : isInt64 low = true := by
  obtain ⟨x, -, rfl⟩ := Option.map_eq_some_iff.mp h.min
  exact isInt64_toInt64 _

theorem ComesTo.isInt64_high (h : ComesTo b low high) : isInt64 high = true := by
  obtain ⟨x, -, rfl⟩ := Option.map_eq_some_iff.mp h.max
  exact isInt64_toInt64 _

def rangeWidth (low high : Int) : Int :=
  high - low + 1

theorem ComesTo.rangeWidth_pos (h : ComesTo b low high) : 0 < rangeWidth low high := by
  have := h.le
  unfold rangeWidth
  omega

/-- A number within the bounds is less than a width away from the lower one, so it is no
exception. -/
theorem ComesTo.wrapInto_eq (h : ComesTo b low high) (n : Int) :
    wrapInto b n = low + (n - low) % rangeWidth low high := by
  have hle := h.le
  rw [wrapInto, h.min, h.max]
  dsimp only
  split
  · next hstays =>
    have hdistance : (n - low) % rangeWidth low high = n - low :=
      Int.emod_eq_of_lt (by omega) (by unfold rangeWidth; omega)
    omega
  · rfl

theorem ComesTo.wrapInto_mem (h : ComesTo b low high) (n : Int) :
    low ≤ wrapInto b n ∧ wrapInto b n ≤ high := by
  have hnonneg := Int.emod_nonneg (n - low) h.rangeWidth_pos.ne'
  have hlt := Int.emod_lt_of_pos (n - low) h.rangeWidth_pos
  rw [h.wrapInto_eq]
  unfold rangeWidth at *
  omega

theorem ComesTo.wrapInto_modEq (h : ComesTo b low high) (n : Int) :
    wrapInto b n ≡ n [ZMOD rangeWidth low high] := by
  have hmod := (Int.mod_modEq (n - low) (rangeWidth low high)).add_left low
  rwa [← h.wrapInto_eq, add_sub_cancel] at hmod

theorem ComesTo.wrapInto_eq_iff (h : ComesTo b low high) (hlow : low ≤ v) (hhigh : v ≤ high) :
    wrapInto b n = v ↔ n ≡ v [ZMOD rangeWidth low high] := by
  constructor
  · rintro rfl
    exact (h.wrapInto_modEq n).symm
  · intro hmod
    have hmem := h.wrapInto_mem n
    exact eq_of_modEq ((h.wrapInto_modEq n).trans hmod) (by unfold rangeWidth; omega)
      (by unfold rangeWidth; omega)

/-- Of as many consecutive numbers as there are integers within the bounds exactly one leads to each
of these. -/
theorem ComesTo.existsUnique_wrapInto (h : ComesTo b low high) (first : Int) (hlow : low ≤ v)
    (hhigh : v ≤ high) :
    ∃! n, (first ≤ n ∧ n < first + rangeWidth low high) ∧ wrapInto b n = v := by
  have hpos := h.rangeWidth_pos
  -- The number that leads to `v` is found from `first` on as a number in the bounds is from `low`
  -- on.
  have hnonneg := Int.emod_nonneg (v - first) hpos.ne'
  have hlt := Int.emod_lt_of_pos (v - first) hpos
  have hmod := (Int.mod_modEq (v - first) (rangeWidth low high)).add_left first
  rw [add_sub_cancel] at hmod
  refine ⟨first + (v - first) % rangeWidth low high,
    ⟨by omega, (h.wrapInto_eq_iff hlow hhigh).mpr hmod⟩, ?_⟩
  rintro n ⟨hrange, hn⟩
  have hsame := ((h.wrapInto_eq_iff hlow hhigh).mp hn).trans hmod.symm
  exact eq_of_modEq hsame (by omega) (by omega)

def int128? (n : Int) : Option Int :=
  if -twoTo 127 ≤ n ∧ n < twoTo 127 then some n else none

/-- A number brought into bounds step by step: each result has to fit 128 bits, and the last one
64. -/
def wrapSteps? (low high n : Int) : Option Int := do
  let span ← int128? (high - low)
  let width ← int128? (span + 1)
  let distance ← int128? (n - low)
  let offset ← int128? (distance % width)
  let wrapped ← int128? (low + offset)
  int64? wrapped

theorem int128?_eq (h : n.natAbs ≤ twoTo 66) : int128? n = some n := by
  have hlarge : (twoTo 66 : Int) < twoTo 127 := by decide
  exact if_pos (by omega)

theorem ComesTo.wrapSteps?_eq (h : ComesTo b low high) (hn : isInt64 n = true) :
    wrapSteps? low high n = some (wrapInto b n) := by
  have hpower : twoTo 66 = 73786976294838206464 := by decide
  have hmem := h.wrapInto_mem n
  have hnonneg := Int.emod_nonneg (n - low) h.rangeWidth_pos.ne'
  have hlt := Int.emod_lt_of_pos (n - low) h.rangeWidth_pos
  have hlow := isInt64_iff.mp h.isInt64_low
  have hhigh := isInt64_iff.mp h.isInt64_high
  have hn := isInt64_iff.mp hn
  have hwrapped : isInt64 (wrapInto b n) = true := isInt64_iff.mpr (by omega)
  rw [h.wrapInto_eq] at hwrapped ⊢
  unfold rangeWidth at *
  have hle := h.le
  rw [wrapSteps?, int128?_eq (by omega)]
  simp only [Option.bind_eq_bind, Option.bind_some]
  rw [int128?_eq (by omega), Option.bind_some, int128?_eq (by omega), Option.bind_some,
    int128?_eq (by omega), Option.bind_some, int128?_eq (by omega), Option.bind_some]
  exact if_pos hwrapped

/-- Numbers are brought into the bounds of a sequence by whole widths. -/
theorem wraps_by_widths (h : ComesTo b low high) :
    (∀ n, isInt64 n = true →
      (low ≤ wrapInto b n ∧ wrapInto b n ≤ high) ∧ (low ≤ n → n ≤ high → wrapInto b n = n) ∧
      wrapInto b n ≡ n [ZMOD rangeWidth low high] ∧ wrapSteps? low high n = some (wrapInto b n)) ∧
    ∀ first v, low ≤ v → v ≤ high →
      ∃! n, (first ≤ n ∧ n < first + rangeWidth low high) ∧ wrapInto b n = v := by
  refine ⟨fun n hn => ⟨h.wrapInto_mem n, fun hlow hhigh => ?_, h.wrapInto_modEq n,
    h.wrapSteps?_eq hn⟩, fun first v hlow hhigh => h.existsUnique_wrapInto first hlow hhigh⟩
  exact (h.wrapInto_eq_iff hlow hhigh).mpr rfl

/-- Bounds with a half, of which the lower one is the least number of 64 bits. The greatest number
is brought to minus two, over a distance and a width that have more than 63 bits. -/
theorem wraps_by_widths_negative : ∃ b, ComesTo b minInt64 0 ∧ wrapInto b maxInt64 = -2 ∧
    wrapSteps? minInt64 0 maxInt64 = some (-2) ∧
    ∃! n, (1 ≤ n ∧ n < 1 + rangeWidth minInt64 0) ∧ wrapInto b n = 0 := by
  have hrange : ComesTo ⟨some (-9223372036854775808.5), some 0.5⟩ minInt64 0 :=
    ⟨by decide +kernel, by decide +kernel, by decide⟩
  have hwrapped : wrapInto ⟨some (-9223372036854775808.5), some 0.5⟩ maxInt64 = -2 := by
    decide +kernel
  obtain ⟨hnumbers, hconsecutive⟩ := wraps_by_widths hrange
  obtain ⟨-, -, -, hsteps⟩ := hnumbers maxInt64 (by decide)
  exact ⟨_, hrange, hwrapped, hwrapped ▸ hsteps, hconsecutive 1 0 (by decide) (by decide)⟩

end Fixtures.Generation
