import Fixtures.Check.Evaluation

namespace Fixtures.Check

open Value

variable {row : String → Option Value} {x low high first left : Expression} {more : List Expression}
  {es : List Expression} {t : Option Bool} {negated : Bool}

@[simp]
theorem truth_ofTruth (t : Option Bool) : (ofTruth t).truth = t := by
  cases t <;> rfl

theorem negated_ofTruth (t : Option Bool) : (ofTruth t).negated = ofTruth (turned true t) := by
  cases t with
  | none => rfl
  | some b => cases b <;> rfl

theorem turned_false (t : Option Bool) : turned false t = t := by
  cases t with
  | none => rfl
  | some b => cases b <;> rfl

theorem eitherHolds_false (t : Option Bool) : eitherHolds t (some false) = t := by
  cases t with
  | none => rfl
  | some b => cases b <;> rfl

theorem eitherHolds_some (b c : Bool) : eitherHolds (some b) (some c) = some (b || c) := by
  cases b <;> cases c <;> rfl

theorem eitherHolds_assoc (t u w : Option Bool) :
    eitherHolds (eitherHolds t u) w = eitherHolds t (eitherHolds u w) := by
  rcases t with _ | _ | _ <;> rcases u with _ | _ | _ <;> rcases w with _ | _ | _ <;> rfl

/-- The search for an equal item goes on behind nulls, so that it takes any item or none of them. -/
theorem memberTruth_cons (v item : Value) (items : List Value) :
    memberTruth v (item :: items) =
      eitherHolds (Comparison.eq.truth v item) (memberTruth v items) := by
  rw [memberTruth]
  rcases Comparison.eq.truth v item with _ | _ | _ <;> rcases memberTruth v items with _ | _ | _ <;>
    rfl

theorem truth_null_left (op : Comparison) (v : Value) : op.truth .null v = none :=
  rfl

theorem memberTruth_null (item : Value) (items : List Value) :
    memberTruth .null (item :: items) = none := by
  rw [memberTruth_cons, truth_null_left]
  induction items with
  | nil => rfl
  | cons item items ih =>
    rw [memberTruth_cons, truth_null_left, ih]
    rfl

namespace Expression

def equalsAny (x first : Expression) (more : List Expression) : Expression :=
  more.foldl (fun left e => .or left (.compare .eq x e)) (.compare .eq x first)

theorem evaluate_foldl_or (hleft : left.evaluate row = ofTruth t) :
    (more.foldl (fun left e => .or left (.compare .eq x e)) left).evaluate row =
      ofTruth (eitherHolds t (memberTruth (x.evaluate row) (evaluateAll row more))) := by
  induction more generalizing left t with
  | nil => rw [List.foldl_nil, evaluateAll, memberTruth, eitherHolds_false, hleft]
  | cons e more ih =>
    have hor : (Expression.or left (.compare .eq x e)).evaluate row =
        ofTruth (eitherHolds t (Comparison.eq.truth (x.evaluate row) (e.evaluate row))) := by
      rw [evaluate, evaluate, hleft, truth_ofTruth, truth_ofTruth]
    rw [List.foldl_cons, ih hor, evaluateAll, memberTruth_cons, eitherHolds_assoc]

theorem evaluate_equalsAny :
    (equalsAny x first more).evaluate row =
      ofTruth (memberTruth (x.evaluate row) (evaluateAll row (first :: more))) := by
  have hfirst : (Expression.compare .eq x first).evaluate row =
      ofTruth (Comparison.eq.truth (x.evaluate row) (first.evaluate row)) := by
    rw [evaluate]
  rw [equalsAny, evaluate_foldl_or hfirst, evaluateAll, memberTruth_cons]

theorem evaluate_oneOf_of_null (h : x.evaluate row = .null) :
    (oneOf negated x es).evaluate row = .null := by
  rw [evaluate, h]
  rfl

theorem evaluate_oneOf_of_ne_null (h : x.evaluate row ≠ .null) :
    (oneOf negated x es).evaluate row =
      ofTruth (turned negated (memberTruth (x.evaluate row) (evaluateAll row es))) := by
  rw [evaluate]
  cases hx : x.evaluate row with
  | null => exact absurd hx h
  | _ => rfl

theorem evaluate_oneOf_cons :
    (oneOf negated x (first :: more)).evaluate row =
      ofTruth (turned negated
          (memberTruth (x.evaluate row) (evaluateAll row (first :: more)))) := by
  by_cases hnull : x.evaluate row = .null
  · rw [evaluate_oneOf_of_null hnull, hnull, evaluateAll, memberTruth_null]
    rfl
  · exact evaluate_oneOf_of_ne_null hnull

theorem evaluate_and_bounds :
    (and (compare .ge x low) (compare .le x high)).evaluate row =
      ofTruth (bothHold (Comparison.ge.truth (x.evaluate row) (low.evaluate row))
        (Comparison.le.truth (x.evaluate row) (high.evaluate row))) := by
  rw [evaluate, evaluate, evaluate, truth_ofTruth, truth_ofTruth]

theorem evaluate_not : (not left).evaluate row = (left.evaluate row).negated := by
  rw [evaluate]

/-- `IN` and `BETWEEN` are abbreviations, with and without `NOT`. -/
theorem evaluate_abbreviations (row : String → Option Value) (x first low high : Expression)
    (more : List Expression) :
    (oneOf false x (first :: more)).evaluate row = (equalsAny x first more).evaluate row ∧
    (oneOf true x (first :: more)).evaluate row = (not (equalsAny x first more)).evaluate row ∧
    (between false x low high).evaluate row =
      (and (compare .ge x low) (compare .le x high)).evaluate row ∧
    (between true x low high).evaluate row =
      (not (and (compare .ge x low) (compare .le x high))).evaluate row := by
  refine ⟨?_, ?_, ?_, ?_⟩
  · rw [evaluate_oneOf_cons, evaluate_equalsAny, turned_false]
  · rw [evaluate_oneOf_cons, evaluate_not, evaluate_equalsAny, negated_ofTruth]
  · rw [evaluate_and_bounds, evaluate, turned_false]
  · rw [evaluate_not, evaluate_and_bounds, evaluate, negated_ofTruth]

/-- A null in the list leaves open what no other item decides. -/
example : (oneOf true (field "size") [literal .null, literal (.text "small")]).evaluate
    (fun _ => some (.text "large")) = .null :=
  rfl

end Expression

end Fixtures.Check
