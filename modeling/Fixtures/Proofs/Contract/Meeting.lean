import Fixtures.Contract.Basic
import Fixtures.Json.Decode

namespace Fixtures

namespace NumberFormat

/-- Numbers that a contract takes for a size: all but negative ones where there is no sign. -/
def bySign (f : NumberFormat) (j : Json) : Bool :=
  !(f.isUnsigned && Contract.isNegative j)

/-- Numbers that keep a size. Of a whole number it is asked that it is written as one. -/
def bySize : NumberFormat → Json → Bool
  | uint32, j => (j.natWithin? 32).isSome
  | uint64, j => (j.natWithin? 64).isSome
  | int64, j => j.int64?.isSome
  | double, _ => true

end NumberFormat

namespace Contract

mutual

/-- Whether a value meets a contract, where numbers of a format are those of a rule. -/
def meets (rule : NumberFormat → Json → Bool) : Contract → Json → Bool
  | .named _ target, j => target.meets rule j
  | .noted _ inner, j => inner.meets rule j
  | .all parts, j => meetsAll rule parts j
  | .any options, j => 0 < countMet rule options j
  | .one options, j => countMet rule options j = 1
  | .null, j => Json.Kind.null.holds j
  | .boolean, j => Json.Kind.boolean.holds j
  | .integer format, j => Json.Kind.integer.holds j && rule format j
  | .integerOrNull format, j =>
    Json.Kind.null.holds j || Json.Kind.integer.holds j && rule format j
  | .number format, j => Json.Kind.number.holds j && rule format j
  | .string, j => Json.Kind.string.holds j
  | .stringOrNull, j => Json.Kind.null.holds j || Json.Kind.string.holds j
  | .word words, j => j.string?.any words.contains
  | .list items, j =>
    match j with
    | .array elements => elements.all fun e => items.meets rule e
    | _ => false
  | .anyObject, j => Json.Kind.object.holds j
  | .map values, j =>
    match j with
    | .object ms => ms.all fun m => values.meets rule m.2
    | _ => false
  | .record members required, j =>
    Json.Kind.object.holds j && required.all (fun name => (j.get? name).isSome) &&
      meetsMembers rule members j

def meetsAll (rule : NumberFormat → Json → Bool) : List Contract → Json → Bool
  | [], _ => true
  | c :: cs, j => c.meets rule j && meetsAll rule cs j

def countMet (rule : NumberFormat → Json → Bool) : List Contract → Json → Nat
  | [], _ => 0
  | c :: cs, j => (if c.meets rule j then 1 else 0) + countMet rule cs j

def meetsMembers (rule : NumberFormat → Json → Bool) : List (String × Contract) → Json → Bool
  | [], _ => true
  | (name, c) :: rest, j => (j.get? name).all (c.meets rule) && meetsMembers rule rest j

end

variable {path : List String} {j : Json}

theorem kindFault_eq_nil {kinds : List Json.Kind} :
    kindFault path kinds j = [] ↔ ∃ k ∈ kinds, k.holds j = true := by
  simp [kindFault]

theorem signFault_eq_nil {format : NumberFormat} :
    signFault path format j = [] ↔ format.bySign j = true := by
  unfold signFault NumberFormat.bySign
  cases format.isUnsigned && isNegative j <;> simp

theorem wordFault_eq_nil {words : List String} :
    kindFault path [.string] j ++ wordFault path words j = [] ↔
      j.string?.any words.contains = true := by
  cases j with
  | string s =>
    by_cases h : s ∈ words <;>
      simp [kindFault, wordFault, Json.Kind.holds, Json.string?, h]
  | _ => simp [wordFault, Json.string?]

theorem missingFault_eq_nil {required : List String} :
    kindFault path [.object] j ++ missingFault path required j = [] ↔
      Json.Kind.object.holds j = true ∧ required.all (fun name => (j.get? name).isSome) = true := by
  cases j with
  | object ms => simp [kindFault, missingFault, Json.Kind.holds, Option.isSome_iff_ne_none]
  | _ => simp [kindFault, Json.Kind.holds]

mutual

theorem violations_eq_nil : ∀ (c : Contract) (path : List String) (j : Json),
    c.violations path j = [] ↔ c.meets NumberFormat.bySign j = true
  | .named _ target, path, j => target.violations_eq_nil path j
  | .noted _ inner, path, j => inner.violations_eq_nil path j
  | .all parts, path, j => allViolations_eq_nil parts path j
  | .any options, path, j => by
    rw [violations, meets, countValid_eq options path j]
    split <;> simp_all
  | .one options, path, j => by
    rw [violations, meets, countValid_eq options path j]
    split <;> simp_all
  | .null, path, j | .boolean, path, j | .string, path, j | .anyObject, path, j => by
    simp [violations, meets, kindFault_eq_nil]
  | .integer format, path, j | .number format, path, j => by
    simp [violations, meets, kindFault_eq_nil, signFault_eq_nil]
  | .integerOrNull format, path, j => by
    rw [violations, meets, List.append_eq_nil_iff, kindFault_eq_nil, signFault_eq_nil]
    cases j <;> simp [Json.Kind.holds, NumberFormat.bySign, isNegative]
  | .stringOrNull, path, j => by simp [violations, meets, kindFault_eq_nil]
  | .word words, path, j => by rw [violations, meets, wordFault_eq_nil]
  | .list items, path, j => by
    have hitems := fun e path => violations_eq_nil items path e
    cases j with
    | array elements =>
      have hall : (elements.all fun e => items.meets NumberFormat.bySign e) = true ↔
          ∀ e ∈ elements.zipIdx.map Prod.fst, items.meets NumberFormat.bySign e = true := by
        rw [List.zipIdx_map_fst, List.all_eq_true]
      rw [meets, hall, List.forall_mem_map]
      simp [violations, kindFault, Json.Kind.holds, hitems]
    | _ => simp [violations, meets, kindFault, Json.Kind.holds]
  | .map values, path, j => by
    have hvalues := fun e path => violations_eq_nil values path e
    cases j with
    | object ms => simp [violations, meets, kindFault, Json.Kind.holds, hvalues]
    | _ => simp [violations, meets, kindFault, Json.Kind.holds]
  | .record members required, path, j => by
    rw [violations, meets, List.append_eq_nil_iff, missingFault_eq_nil,
      memberViolations_eq_nil members path j]
    simp

theorem allViolations_eq_nil : ∀ (cs : List Contract) (path : List String) (j : Json),
    allViolations cs path j = [] ↔ meetsAll NumberFormat.bySign cs j = true
  | [], _, _ => by simp [allViolations, meetsAll]
  | c :: cs, path, j => by
    rw [allViolations, meetsAll, List.append_eq_nil_iff, Bool.and_eq_true,
      violations_eq_nil c path j, allViolations_eq_nil cs path j]

theorem countValid_eq : ∀ (cs : List Contract) (path : List String) (j : Json),
    countValid cs path j = countMet NumberFormat.bySign cs j
  | [], _, _ => rfl
  | c :: cs, path, j => by
    rw [countValid, countMet, countValid_eq cs path j]
    simp only [List.isEmpty_iff, violations_eq_nil c path j]

theorem memberViolations_eq_nil : ∀ (ms : List (String × Contract)) (path : List String) (j : Json),
    memberViolations ms path j = [] ↔ meetsMembers NumberFormat.bySign ms j = true
  | [], _, _ => by simp [memberViolations, meetsMembers]
  | (name, c) :: ms, path, j => by
    rw [memberViolations, meetsMembers, List.append_eq_nil_iff, Bool.and_eq_true,
      memberViolations_eq_nil ms path j]
    cases j.get? name with
    | none => simp
    | some v => simp [violations_eq_nil c (path ++ [name]) v]

end

end Contract

end Fixtures
