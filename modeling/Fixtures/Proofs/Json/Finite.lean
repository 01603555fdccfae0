import Fixtures.Proofs.Json.Ordered
import Fixtures.Proofs.Json.Text
import Fixtures.Proofs.Numeric.Finite
import Fixtures.Value.Coerce

namespace Fixtures.Json

namespace Reader

open Binary64

variable {cs rest : List Char} {x y : Float} {fuel depth start digits : Nat} {n exponent : Int}
    {negative : Bool}
  {j : Json} {items : List Json} {ms : List (String × Json)}

theorem significand_lt (h : start < twoTo 64) (cs : List Char) :
    (significand start cs).1 < twoTo 64 := by
  induction cs generalizing start with
  | nil => exact h
  | cons c cs ih =>
    unfold significand
    dsimp only
    split
    · next hnext => exact ih hnext
    · exact h

theorem largest_power_eq : (1e308 : Float) = Decimal.nearest 1 (308 : Nat) := by
  rfl

/-- Each step divides by one power of ten, and the exponent grows little until the last step. -/
theorem isFinite_scale (hx : Within n x.toModel.unpack) (hmin : -1074 ≤ n) (hmax : n + fuel ≤ 971)
    (h : scale fuel x exponent = some y) : y.isFinite = true := by
  induction fuel generalizing x n exponent with
  | zero =>
    cases h
    exact hx.isFinite
  | succ fuel ih =>
    unfold scale at h
    split at h
    · next hpower =>
      dsimp only at h
      split at h
      · split at h
        · cases h
        · next hinf =>
          cases h
          exact isFinite_mul hx.isFinite (isFinite_power hpower) (Bool.eq_false_of_not_eq_true hinf)
      · cases h
        exact (within_div_power hpower hx hmin (by omega)).isFinite
    · split at h
      · cases h
        exact hx.isFinite
      · split at h
        · cases h
        · rw [largest_power_eq] at h
          exact ih (within_div_power (Nat.le_refl 308) hx hmin (by omega)) (by omega) (by omega) h

theorem isFinite_floatOf (hdigits : digits < twoTo 64) (h : floatOf digits exponent = some x) :
    x.isFinite = true := by
  have hle : (digits : Int).natAbs ≤ twoTo 64 := Nat.le_of_lt hdigits
  exact isFinite_scale ((holds_ofInt hle).within (natAbs_nearest_le hle) (Int.le_refl 12))
    (by decide) (by decide) h

theorem isFinite_signed (h : x.isFinite = true) (negative : Bool) :
    IsFinite (.float (if negative then -x else x)) := by
  refine .float ?_
  split
  · exact isFinite_neg h
  · exact h

theorem isFinite_numberOf {whole : List Char} {fraction : Option (List Char)}
    {exponent : Option Int}
    (h : numberOf negative whole fraction exponent = some j) : j.IsFinite := by
  have hhead : (significand 0 whole).1 < twoTo 64 := significand_lt (by decide) whole
  unfold numberOf at h
  generalize significand 0 whole = taken at *
  dsimp only at h
  split at h
  · split at h
    · split at h
      · cases h
        have hle : (taken.1 : Int).natAbs ≤ twoTo 64 := Nat.le_of_lt hhead
        exact isFinite_signed (holds_ofInt hle).isFinite true
      · cases h
        exact .int _
    · cases h
      exact .int _
  · rw [Option.map_eq_some_iff] at h
    obtain ⟨x, hx, rfl⟩ := h
    refine isFinite_signed (isFinite_floatOf ?_ hx) negative
    cases fraction with
    | none => exact hhead
    | some ds => exact significand_lt hhead ds

theorem isFinite_number (h : number cs = some (j, rest)) : j.IsFinite := by
  unfold number at h
  simp only [Option.bind_eq_bind, Option.bind_none, Option.ite_none_left_eq_some,
    Option.bind_eq_some_iff] at h
  split at h <;>
  · obtain ⟨-, -, ⟨fraction, cs⟩, -, ⟨exponent, cs'⟩, -, value, hvalue, heq⟩ := h
    cases heq
    exact isFinite_numberOf hvalue

theorem isFinite_literal {word : List Char} {value : Json} (hvalue : value.IsFinite)
    (h : literal word value cs = some (j, rest)) : j.IsFinite := by
  unfold literal at h
  split at h
  · cases h
    exact hvalue
  · cases h

theorem isFinite_ofMembers (h : ∀ m ∈ ms, m.2.IsFinite) : (ofMembers ms).IsFinite := by
  have hfold : ∀ sorted : List (String × Json), (∀ m ∈ sorted, m.2.IsFinite) →
      ∀ m ∈ ms.foldl (fun sorted m => insertMember m.1 m.2 sorted) sorted, m.2.IsFinite := by
    induction ms with
    | nil => exact fun _ hsorted => hsorted
    | cons m ms ih =>
      obtain ⟨hm, hms⟩ := List.forall_mem_cons.mp h
      intro sorted hsorted
      refine ih hms _ fun n hn => ?_
      rcases mem_insertMember hn with rfl | hn
      · exact hm
      · exact hsorted n hn
  exact .object (hfold [] nofun)

structure ReadsFinite (fuel : Nat) : Prop where
  value : ∀ {depth cs j rest}, Reader.value fuel depth cs = some (j, rest) → j.IsFinite
  elements : ∀ {depth cs items rest}, Reader.elements fuel depth cs = some (items, rest) →
    ∀ j ∈ items, j.IsFinite
  members : ∀ {depth cs ms rest}, Reader.members fuel depth cs = some (ms, rest) →
    ∀ m ∈ ms, m.2.IsFinite

theorem ReadsFinite.value_succ (ih : ReadsFinite fuel)
    (h : Reader.value (fuel + 1) depth cs = some (j, rest)) :
    j.IsFinite := by
  unfold Reader.value at h
  split at h
  · cases h
  · rw [Option.map_eq_some_iff] at h
    obtain ⟨⟨s, _⟩, -, heq⟩ := h
    cases heq
    exact .string s
  · exact isFinite_literal .null h
  · exact isFinite_literal (.bool true) h
  · exact isFinite_literal (.bool false) h
  · split at h
    · cases h
    · split at h
      · cases h
        exact .array nofun
      · rw [Option.map_eq_some_iff] at h
        obtain ⟨⟨items, _⟩, hitems, heq⟩ := h
        cases heq
        exact .array (ih.elements hitems)
  · split at h
    · cases h
    · split at h
      · cases h
        exact .object nofun
      · rw [Option.map_eq_some_iff] at h
        obtain ⟨⟨ms, _⟩, hms, heq⟩ := h
        cases heq
        exact isFinite_ofMembers (ih.members hms)
  · exact isFinite_number h

theorem ReadsFinite.elements_succ (ih : ReadsFinite fuel)
    (h : Reader.elements (fuel + 1) depth cs = some (items, rest)) : ∀ j ∈ items, j.IsFinite := by
  simp only [Reader.elements, Option.bind_eq_bind, Option.bind_eq_some_iff] at h
  obtain ⟨⟨j, _⟩, hj, h⟩ := h
  split at h
  · cases h
    exact List.forall_mem_singleton.mpr (ih.value hj)
  · rw [Option.bind_eq_some_iff] at h
    obtain ⟨⟨more, _⟩, hmore, heq⟩ := h
    cases heq
    exact List.forall_mem_cons.mpr ⟨ih.value hj, ih.elements hmore⟩
  · cases h

theorem ReadsFinite.members_succ (ih : ReadsFinite fuel)
    (h : Reader.members (fuel + 1) depth cs = some (ms, rest)) : ∀ m ∈ ms, m.2.IsFinite := by
  unfold Reader.members at h
  split at h
  · simp only [Option.bind_eq_bind, Option.bind_eq_some_iff] at h
    obtain ⟨⟨key, _⟩, -, h⟩ := h
    split at h
    · simp only [Option.bind_eq_some_iff] at h
      obtain ⟨⟨j, _⟩, hj, h⟩ := h
      split at h
      · cases h
        exact List.forall_mem_singleton.mpr (ih.value hj)
      · rw [Option.bind_eq_some_iff] at h
        obtain ⟨⟨more, _⟩, hmore, heq⟩ := h
        cases heq
        exact List.forall_mem_cons.mpr ⟨ih.value hj, ih.members hmore⟩
      · cases h
    · cases h
  · cases h

theorem readsFinite (fuel : Nat) : ReadsFinite fuel := by
  induction fuel with
  | zero => exact ⟨nofun, nofun, nofun⟩
  | succ fuel ih => exact ⟨ih.value_succ, ih.elements_succ, ih.members_succ⟩

end Reader

theorem isFinite_of_parse? {text : String} {j : Json} (h : parse? text = some j) : j.IsFinite := by
  simp only [parse?, Option.bind_eq_bind, Option.bind_eq_some_iff] at h
  obtain ⟨⟨value, rest⟩, hvalue, h⟩ := h
  split at h
  · cases h
    exact (Reader.readsFinite _).value hvalue
  · cases h

end Fixtures.Json

namespace Fixtures.Value

variable {v w : Value} {l l' : Literal}

theorem exists_isFinite_of_ofLiteral? (h : ofLiteral? .json l = some v) (hl : l ≠ .null) :
    ∃ j, v = .json j ∧ j.IsFinite := by
  cases l with
  | null => exact absurd rfl hl
  | bool b =>
    cases h
    exact ⟨_, rfl, .bool b⟩
  | int n =>
    cases h
    exact ⟨_, rfl, .int n⟩
  | decimal x =>
    cases h
    refine ⟨_, rfl, ?_⟩
    unfold jsonFloat
    split
    · next hx => exact .float hx
    · exact .null
  | text s =>
    cases h
    refine ⟨_, rfl, ?_⟩
    cases hparse : Json.parse? s with
    | none => exact .string s
    | some j => exact Json.isFinite_of_parse? hparse

end Fixtures.Value
