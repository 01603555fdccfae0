import Fixtures.Proofs.Domain.Acceptance
import Fixtures.Proofs.Numeric.Integers

namespace Fixtures.Domain

open Binary64

variable {low high : Option Literal} {cs : List Constraint} {d : Domain} {n : Int}

def intBound? : Option Literal → Option Int
  | some (.int n) => some n
  | _ => none

def IsIntBound (bound : Option Literal) : Prop :=
  bound = none ∨ bound = some .null ∨ ∃ n, bound = some (.int n) ∧ isInt64 n = true

theorem numericBound_of_isIntBound (label : String) (h : IsIntBound low) :
    numericBound label low = .ok ((intBound? low).map Float.ofInt) := by
  rcases h with rfl | rfl | ⟨n, rfl, -⟩ <;> rfl

theorem isInt64_of_mem_intBound? (h : IsIntBound low) {a : Int} (ha : a ∈ intBound? low) :
    isInt64 a = true := by
  rcases h with rfl | rfl | ⟨n, rfl, hn⟩
  · cases ha
  · cases ha
  · cases ha
    exact hn

def intBounds (low high : Option Literal) : Bounds Float :=
  ⟨(intBound? low).map Float.ofInt, (intBound? high).map Float.ofInt⟩

theorem contains_intBounds (hlow : IsIntBound low) (hhigh : IsIntBound high)
    (hn : isInt64 n = true) :
    (intBounds low high).contains (Float.ofInt n) = true ↔
      (∀ a ∈ intBound? low, nearest a ≤ nearest n) ∧
        ∀ b ∈ intBound? high, nearest n ≤ nearest b := by
  unfold Bounds.contains intBounds
  rw [Bool.and_eq_true, Option.all_map, Option.all_map, Option.all_eq_true, Option.all_eq_true]
  refine and_congr (forall₂_congr fun a ha => ?_) (forall₂_congr fun b hb => ?_)
  · have ha := isInt64_of_mem_intBound? hlow ha
    simp [ofInt_le_ofInt (natAbs_le ha) (natAbs_le hn)]
  · have hb := isInt64_of_mem_intBound? hhigh hb
    simp [ofInt_le_ofInt (natAbs_le hn) (natAbs_le hb)]

theorem part_range (hlow : IsIntBound low) (hhigh : IsIntBound high) {added : Draft}
    (h : part (.primitive .integer) (.range low high) = .ok added) :
    added.domain.numeric = intBounds low high ∧ added.domain.lengthChecks = [] ∧
      added.domain.elementChecks =
        [.numeric (Constraint.range low high).label (intBounds low high)] := by
  cases adds_of_part h with
  | nothing honValue => cases honValue
  | temporal htemporal => cases htemporal
  | @numeric _ _ bounds _ hlow' hhigh' _ =>
    rw [numericBound_of_isIntBound _ hlow, Except.ok.injEq] at hlow'
    rw [numericBound_of_isIntBound _ hhigh, Except.ok.injEq] at hhigh'
    have hbounds : bounds = intBounds low high := by rw [intBounds, hlow', hhigh']
    exact ⟨hbounds, rfl, by rw [hbounds]⟩

theorem accepts_range_iff (hlow : IsIntBound low) (hhigh : IsIntBound high) (hn : isInt64 n = true)
    {added : Draft} (hadded : part (.primitive .integer) (.range low high) = .ok added) :
    Accepts (.primitive .integer) (.int n) (.range low high) ↔
      (∀ a ∈ intBound? low, nearest a ≤ nearest n) ∧
        ∀ b ∈ intBound? high, nearest n ≤ nearest b := by
  obtain ⟨-, hlength, helement⟩ := part_range hlow hhigh hadded
  rw [← contains_intBounds hlow hhigh hn, accepts_iff hadded, hlength, helement]
  simp [ValueCheck.admits, Value.float?]

/-- Constraints that say of values only in which ranges of 64-bit integers they are. -/
def AreIntRanges (cs : List Constraint) : Prop :=
  ∀ c ∈ cs, c.isOnValue = true → ∃ low high, c = .range low high ∧ IsIntBound low ∧ IsIntBound high

theorem admits_int_iff (h : build (.primitive .integer) cs = .ok d) (hcs : AreIntRanges cs)
    (hn : isInt64 n = true) : d.admits (.int n) = true ↔ ∀ low high, .range low high ∈ cs →
      (∀ a ∈ intBound? low, nearest a ≤ nearest n) ∧
        ∀ b ∈ intBound? high, nearest n ≤ nearest b := by
  obtain ⟨parts, hparts, -⟩ := built_of_build h
  have haccepts : ∀ low high, .range low high ∈ cs →
      (Accepts (.primitive .integer) (.int n) (.range low high) ↔
        (∀ a ∈ intBound? low, nearest a ≤ nearest n) ∧
        ∀ b ∈ intBound? high, nearest n ≤ nearest b) := by
    intro low high hc
    obtain ⟨_, _, heq, hlow, hhigh⟩ := hcs _ hc rfl
    cases heq
    obtain ⟨added, -, hadded⟩ := mem_of_mapM hparts hc
    exact accepts_range_iff hlow hhigh hn hadded
  have hnull : Value.int n ≠ .null := nofun
  rw [admits_iff_of_build h hnull]
  constructor
  · intro hall low high hc
    exact (haccepts low high hc).mp (hall _ hc)
  · intro hall c hc
    cases honValue : c.isOnValue with
    | false => exact accepts_of_not_isOnValue honValue
    | true =>
      obtain ⟨low, high, rfl, -, -⟩ := hcs c hc honValue
      exact (haccepts low high hc).mpr (hall low high hc)

/-- An integer is admitted if it is inside of every range, and beyond a bound only if it is rounded
to it. Bounds of at most 53 bits are exact. -/
theorem admits_within_rounded_ranges (h : build (.primitive .integer) cs = .ok d)
    (hcs : AreIntRanges cs) (hn : isInt64 n = true) :
    (d.admits (.int n) = true ↔ ∀ low high, .range low high ∈ cs →
      (∀ a ∈ intBound? low, a ≤ n ∨ nearest a = nearest n) ∧
        ∀ b ∈ intBound? high, n ≤ b ∨ nearest n = nearest b) ∧
    ((∀ low high, .range low high ∈ cs → ∀ a, a ∈ intBound? low ∨ a ∈ intBound? high →
        a.natAbs < twoTo 53) →
      (d.admits (.int n) = true ↔ ∀ low high, .range low high ∈ cs →
        (∀ a ∈ intBound? low, a ≤ n) ∧ ∀ b ∈ intBound? high, n ≤ b)) := by
  rw [admits_int_iff h hcs hn]
  simp only [nearest_le_nearest_iff, true_and]
  intro hsmall
  have hexact : ∀ {a}, isInt64 a = true → a.natAbs < twoTo 53 → nearest a = nearest n → a = n := by
    intro a ha hlt heq
    rcases eq_or_close_of_nearest_eq ha hn heq with rfl | ⟨hlarge, -⟩
    · rfl
    · omega
  refine forall₃_congr fun low high hc => ?_
  obtain ⟨_, _, heq, hlow, hhigh⟩ := hcs _ hc rfl
  cases heq
  refine and_congr (forall₂_congr fun a ha => ?_) (forall₂_congr fun b hb => ?_)
  · have := hexact (isInt64_of_mem_intBound? hlow ha) (hsmall _ _ hc a (.inl ha))
    omega
  · have := hexact (isInt64_of_mem_intBound? hhigh hb) (hsmall _ _ hc b (.inr hb))
    omega

/-- Two ranges, the second of which ends at the least integer that its successor is not told apart
from. -/
def crowdedRanges : List Constraint :=
  [.range (some (.int 1)) none, .range (some .null) (some (.int 9007199254740992))]

theorem admits_within_rounded_ranges_crowded :
    ∃ d, build (.primitive .integer) crowdedRanges = .ok d ∧
    AreIntRanges crowdedRanges ∧ d.admits (.int 9007199254740993) = true ∧
      d.admits (.int 9007199254740994) = false := by
  have hranges : AreIntRanges crowdedRanges := by
    intro c hc _
    rcases List.mem_cons.mp hc with rfl | hc
    · exact ⟨_, _, rfl, .inr (.inr ⟨1, rfl, by decide⟩), .inl rfl⟩
    · rw [List.mem_singleton.mp hc]
      exact ⟨_, _, rfl, .inr (.inl rfl), .inr (.inr ⟨_, rfl, by decide⟩)⟩
  obtain ⟨d, hd⟩ : ∃ d, build (.primitive .integer) crowdedRanges = .ok d := ⟨_, rfl⟩
  refine ⟨d, hd, hranges, ?_, ?_⟩
  · refine (admits_within_rounded_ranges hd hranges (by decide)).1.mpr fun low high hc => ?_
    simp only [crowdedRanges, List.mem_cons, Constraint.range.injEq, List.not_mem_nil, or_false]
      at hc
    rcases hc with ⟨rfl, rfl⟩ | ⟨rfl, rfl⟩
    · exact ⟨by decide, by decide⟩
    · exact ⟨by decide, fun b hb => by cases hb; exact .inr (by decide +kernel)⟩
  · rw [Bool.eq_false_iff]
    intro hadmits
    have hall := (admits_within_rounded_ranges hd hranges (by decide)).1.mp hadmits
    rcases (hall _ _ (List.mem_cons_of_mem _ List.mem_cons_self)).2 9007199254740992 rfl
      with hle | heq
    · exact absurd hle (by decide)
    · exact absurd heq (by decide +kernel)

theorem admits_beyond_range :
    ∃ d, build (.primitive .integer) [.range none (some (.int 9007199254740992))] = .ok d ∧
      d.admits (.int 9007199254740993) = true ∧ ¬ (9007199254740993 : Int) ≤ 9007199254740992 :=
  ⟨_, rfl, by decide +kernel, by decide⟩

end Fixtures.Domain
