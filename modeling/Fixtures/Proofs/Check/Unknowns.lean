import Fixtures.Proofs.Check.Expansions
import Fixtures.Proofs.Check.Printing

namespace Fixtures.Check

open Value

variable {α β γ : Type} {unknown a b : α} {row filled : String → Option Value} {e : Expression}
  {items : List Expression} {v : Value} {t t' u u' : Option Bool}

def Stays (unknown before after : α) : Prop :=
  before ≠ unknown → after = before

theorem eitherHolds_eq_turned (t u : Option Bool) :
    eitherHolds t u = turned true (bothHold (turned true t) (turned true u)) := by
  rcases t with _ | _ | _ <;> rcases u with _ | _ | _ <;> rfl

namespace Stays

theorem refl : Stays unknown a a :=
  fun _ => rfl

theorem map {unknown' : β} {f : α → β} (hf : f unknown = unknown') (h : Stays unknown a b) :
    Stays unknown' (f a) (f b) := by
  intro hknown
  have ha : a ≠ unknown := by
    rintro rfl
    exact hknown hf
  rw [h ha]

theorem map₂ {unknown' : β} {unknown'' : γ} {a' b' : β} {f : α → β → γ}
    (hleft : ∀ c, f unknown c = unknown'') (hright : ∀ c, f c unknown' = unknown'')
    (h : Stays unknown a b) (h' : Stays unknown' a' b') : Stays unknown'' (f a a') (f b b') := by
  intro hknown
  have ha : a ≠ unknown := by
    rintro rfl
    exact hknown (hleft a')
  have ha' : a' ≠ unknown' := by
    rintro rfl
    exact hknown (hright a)
  rw [h ha, h' ha']

/-- A conjunction can be known beside an unknown side: then the other side is false and decides
alone. -/
theorem bothHold (h : Stays none t u) (h' : Stays none t' u') :
    Stays none (bothHold t t') (bothHold u u') := by
  intro hknown
  cases t with
  | none =>
    obtain rfl : t' = some false := by
      rcases t' with _ | _ | _ <;> first | rfl | exact absurd rfl hknown
    rw [h' nofun]
    rcases u with _ | _ | _ <;> rfl
  | some c =>
    rw [h nofun]
    cases t' with
    | none =>
      obtain rfl : c = false := by
        cases c <;> first | rfl | exact absurd rfl hknown
      rfl
    | some d => rw [h' nofun]

theorem turned (negated : Bool) (h : Stays none t u) :
    Stays none (turned negated t) (turned negated u) :=
  h.map rfl

theorem eitherHolds (h : Stays none t u) (h' : Stays none t' u') :
    Stays none (eitherHolds t t') (eitherHolds u u') := by
  rw [eitherHolds_eq_turned, eitherHolds_eq_turned]
  exact ((h.turned true).bothHold (h'.turned true)).turned true

theorem truth {v w : Value} (h : Stays .null v w) : Stays none v.truth w.truth :=
  h.map rfl

theorem ofTruth (h : Stays none t u) : Stays .null (ofTruth t) (ofTruth u) :=
  h.map rfl

end Stays

theorem truth_null_right (op : Comparison) (v : Value) : op.truth v .null = none := by
  rw [Comparison.truth, isNull, Bool.or_true, if_pos rfl]

theorem apply_null_left (op : Arithmetic) (v : Value) : op.apply .null v = .null :=
  rfl

theorem apply_null_right (op : Arithmetic) (v : Value) : op.apply v .null = .null := by
  cases v <;> rfl

theorem Stays.compare {v v' w w' : Value} (op : Comparison) (h : Stays .null v w)
    (h' : Stays .null v' w') :
    Stays none (op.truth v v') (op.truth w w') :=
  h.map₂ (truth_null_left op) (truth_null_right op) h'

namespace Expression

mutual

def asksForNull : Expression → Bool
  | .literal _ => false
  | .field _ => false
  | .not e => asksForNull e
  | .neg e => asksForNull e
  | .or left right => asksForNull left || asksForNull right
  | .and left right => asksForNull left || asksForNull right
  | .compare _ left right => asksForNull left || asksForNull right
  | .arithmetic _ left right => asksForNull left || asksForNull right
  | .oneOf _ e items => asksForNull e || anyAsksForNull items
  | .between _ e low high => asksForNull e || asksForNull low || asksForNull high
  | .isNull _ _ => true

def anyAsksForNull : List Expression → Bool
  | [] => false
  | e :: es => asksForNull e || anyAsksForNull es

end

theorem anyAsksForNull_eq_any (es : List Expression) : anyAsksForNull es = es.any asksForNull := by
  induction es with
  | nil => rw [anyAsksForNull, List.any_nil]
  | cons e es ih => rw [anyAsksForNull, ih, List.any_cons]

/-- A row with the nulls of another one filled in, as many of them as one likes. -/
def Fills (row filled : String → Option Value) : Prop :=
  ∀ name, Stays .null ((row name).getD .null) ((filled name).getD .null)

theorem memberTruth_stays (v : Value)
    (h : ∀ item ∈ items, Stays .null (item.evaluate row) (item.evaluate filled)) :
    Stays none (memberTruth v (evaluateAll row items))
      (memberTruth v (evaluateAll filled items)) := by
  induction items with
  | nil => exact .refl
  | cons item items ih =>
    obtain ⟨hitem, hitems⟩ := List.forall_mem_cons.mp h
    rw [evaluateAll, evaluateAll, memberTruth_cons, memberTruth_cons]
    exact ((Stays.refl (a := v)).compare .eq hitem).eitherHolds (ih hitems)

/-- The list counts only where the value that is looked for is known, and then it is the same
one. -/
theorem oneOf_stays {negated : Bool} (he : Stays .null (e.evaluate row) (e.evaluate filled))
    (h : ∀ item ∈ items, Stays .null (item.evaluate row) (item.evaluate filled)) :
    Stays .null ((oneOf negated e items).evaluate row)
      ((oneOf negated e items).evaluate filled) := by
  intro hknown
  have hrow : e.evaluate row ≠ .null := fun hnull => hknown (evaluate_oneOf_of_null hnull)
  have hfilled : e.evaluate filled ≠ .null := by rwa [he hrow]
  rw [evaluate_oneOf_of_ne_null hrow] at hknown ⊢
  rw [evaluate_oneOf_of_ne_null hfilled, he hrow]
  exact ((memberTruth_stays (e.evaluate row) h).turned negated).ofTruth hknown

theorem evaluate_stays (hrow : Fills row filled) (h : e.asksForNull = false) :
    Stays .null (e.evaluate row) (e.evaluate filled) := by
  induction e using Expression.induction with
  | literal l => exact .refl
  | field name => exact hrow name
  | not e ih =>
    rw [evaluate, evaluate]
    exact (ih h).map rfl
  | neg e ih =>
    rw [evaluate, evaluate]
    exact (ih h).map rfl
  | or left right ihleft ihright =>
    obtain ⟨hleft, hright⟩ := Bool.or_eq_false_iff.mp h
    rw [evaluate, evaluate]
    exact ((ihleft hleft).truth.eitherHolds (ihright hright).truth).ofTruth
  | and left right ihleft ihright =>
    obtain ⟨hleft, hright⟩ := Bool.or_eq_false_iff.mp h
    rw [evaluate, evaluate]
    exact ((ihleft hleft).truth.bothHold (ihright hright).truth).ofTruth
  | compare op left right ihleft ihright =>
    obtain ⟨hleft, hright⟩ := Bool.or_eq_false_iff.mp h
    rw [evaluate, evaluate]
    exact ((ihleft hleft).compare op (ihright hright)).ofTruth
  | arithmetic op left right ihleft ihright =>
    obtain ⟨hleft, hright⟩ := Bool.or_eq_false_iff.mp h
    rw [evaluate, evaluate]
    exact (ihleft hleft).map₂ (apply_null_left op) (apply_null_right op) (ihright hright)
  | oneOf negated e items ih ihitems =>
    rw [asksForNull, Bool.or_eq_false_iff, anyAsksForNull_eq_any, List.any_eq_false] at h
    exact oneOf_stays (ih h.1) fun item hitem =>
      ihitems item hitem (Bool.eq_false_iff.mpr (h.2 item hitem))
  | between negated e low high ih ihlow ihhigh =>
    rw [asksForNull, Bool.or_eq_false_iff, Bool.or_eq_false_iff] at h
    obtain ⟨⟨he, hlow⟩, hhigh⟩ := h
    rw [evaluate, evaluate]
    exact ((((ih he).compare .ge (ihlow hlow)).bothHold
      ((ih he).compare .le (ihhigh hhigh))).turned negated).ofTruth
  | isNull negated e => cases h

/-- A check that is decided while fields are null is never turned over by what they are filled
with. -/
theorem filling_keeps_decided (hrow : Fills row filled) (h : e.asksForNull = false) :
    (e.evaluate row ≠ .null → e.evaluate filled = e.evaluate row) ∧
      ∀ b, e.holds row = some b → e.holds filled = some b := by
  refine ⟨evaluate_stays hrow h, fun b hb => ?_⟩
  have hholds : Stays none (e.holds row) (e.holds filled) := (evaluate_stays hrow h).truth
  rw [hholds (by rw [hb]; nofun), hb]

def draft : String → Option Value
  | "status" => some (.text "open")
  | _ => none

def completed : String → Option Value
  | "status" => some (.text "open")
  | "note" => some (.text "late")
  | "paid" => some (.bool false)
  | _ => none

def openOrPaid : Expression :=
  .or (.oneOf false (.field "status") [.field "note", .literal (.text "open")]) (.field "paid")

theorem filling_keeps_decided_order :
    Fills draft completed ∧ openOrPaid.asksForNull = false ∧
      openOrPaid.evaluate draft = .bool true ∧
      openOrPaid.evaluate completed = .bool true ∧ openOrPaid.holds completed = some true := by
  have hfills : Fills draft completed := by
    intro name
    by_cases hname : name = "status"
    · subst hname
      exact .refl
    · have hnull : (draft name).getD .null = .null := by simp [draft]
      exact fun hknown => absurd hnull hknown
  have hdraft : openOrPaid.evaluate draft = .bool true := rfl
  obtain ⟨hvalue, hholds⟩ := filling_keeps_decided hfills (e := openOrPaid) rfl
  have hknown : openOrPaid.evaluate draft ≠ .null := by
    rw [hdraft]
    nofun
  exact ⟨hfills, rfl, hdraft, (hvalue hknown).trans hdraft,
    hholds true (congrArg Value.truth hdraft)⟩

/-- What asks for nulls can be turned over. -/
example : (isNull false (field "note")).evaluate draft = .bool true ∧
    (isNull false (field "note")).evaluate completed = .bool false :=
  ⟨rfl, rfl⟩

end Expression

end Fixtures.Check
