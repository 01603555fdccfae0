import Fixtures.Domain.Basic
import Fixtures.Proofs.Outcome

namespace Fixtures

def Value.kind? : Value → Option Primitive
  | null => none
  | bool _ => some .boolean
  | int _ => some .integer
  | decimal _ => some .decimal
  | text _ => some .string
  | uuid _ => some .uuid
  | date _ => some .date
  | timestamp _ => some .timestamp
  | binary _ => some .binary
  | json _ => some .json
  | array _ => none

/-- Values of a type. An array has elements of one built-in type, none of them null, and as many of
them as the type says. -/
def Value.HasType : Terminal → Value → Prop
  | .primitive p, v => v.kind? = some p
  | .array item length, v => ∃ items, v = .array items ∧ (∀ i ∈ items, i.kind? = some item) ∧
    ∀ n, length = some n → items.length = n

namespace Value

variable {p : Primitive} {v : Value}

theorem HasType.ne_null {t : Terminal} (h : v.HasType t) : v ≠ .null := by
  rintro rfl
  cases t with
  | primitive p => simp [HasType, kind?] at h
  | array item length => simp [HasType] at h

theorem kind?_of_ofText? {s : String} (h : ofText? p s = some v) : v.kind? = some p := by
  cases p <;> simp only [ofText?, Option.map_eq_some_iff, Option.some.injEq, reduceCtorEq] at h
  case string => subst h; rfl
  case json => subst h; rfl
  all_goals
    obtain ⟨a, _, rfl⟩ := h
    rfl

theorem kind?_of_ofLiteral? {l : Literal} (h : ofLiteral? p l = some v) (hl : l ≠ .null) :
    v.kind? = some p := by
  cases l with
  | null => exact absurd rfl hl
  | text s => exact kind?_of_ofText? h
  | bool b | int n | decimal x =>
    cases p <;> simp only [ofLiteral?, Option.some.injEq, reduceCtorEq] at h <;> subst h <;> rfl

theorem ofLiteral?_null : ofLiteral? p .null = some .null := rfl

end Value

end Fixtures
