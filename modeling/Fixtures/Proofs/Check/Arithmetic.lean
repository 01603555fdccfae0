import Fixtures.Check.Evaluation
import Fixtures.Proofs.Text.Names

namespace Fixtures.Check

open Binary64 Value

variable {row : String → Option Value} {e left right : Expression} {i j m n : Int} {name x : String}
  {op : Arithmetic}

/-- The result of an operation on integers. A quotient goes toward zero, and there is none by
zero. -/
def Arithmetic.result? : Arithmetic → Int → Int → Option Int
  | add, m, n => some (m + n)
  | sub, m, n => some (m - n)
  | mul, m, n => some (m * n)
  | div, m, n => if n = 0 then none else some (m.tdiv n)

theorem Arithmetic.onInts?_eq (op : Arithmetic) (m n : Int) :
    op.onInts? m n = (op.result? m n).bind fitted := by
  cases op with
  | add | sub | mul => rfl
  | div =>
    rw [onInts?, result?]
    split <;> rfl

theorem fitted_of_isInt64 (h : isInt64 n = true) : fitted n = some n :=
  if_pos h

theorem fitted_of_not_isInt64 (h : ¬ isInt64 n = true) : fitted n = none :=
  if_neg h

namespace Expression

/-- The integer that an expression comes to when no result is bounded, if its fields have integers
and nothing is divided by zero. -/
def integer? (row : String → Option Value) : Expression → Option Int
  | .literal (.int n) => some n
  | .field name => (row name).bind Value.int?
  | .neg e => (integer? row e).map fun n => -n
  | .arithmetic op left right =>
    (integer? row left).bind fun m => (integer? row right).bind fun n => op.result? m n
  | _ => none

def parts : Expression → List Expression
  | .neg e => .neg e :: parts e
  | .arithmetic op left right => .arithmetic op left right :: (parts left ++ parts right)
  | e => [e]

theorem mem_parts_self (e : Expression) : e ∈ e.parts := by
  cases e <;> simp [parts]

/-- An expression of literals and fields that are 64-bit integers, or fields that are null, with
signs and the four operations. -/
inductive IsIntegral (row : String → Option Value) : Expression → Prop
  | literal {n : Int} : isInt64 n = true → IsIntegral row (.literal (.int n))
  | field {name : String} :
    ((row name).getD .null = .null ∨ ∃ n, row name = some (.int n) ∧ isInt64 n = true) →
      IsIntegral row (.field name)
  | neg {e : Expression} : IsIntegral row e → IsIntegral row (.neg e)
  | arithmetic {left right : Expression} (op : Arithmetic) :
    IsIntegral row left → IsIntegral row right → IsIntegral row (.arithmetic op left right)

/-- No field of an expression is null, and the expression and all operands in it come to 64-bit
integers. -/
structure IsExact (row : String → Option Value) (e : Expression) : Prop where
  known : ∀ x ∈ e.fields, (row x).getD .null ≠ .null
  parts : ∀ part ∈ e.parts, ∃ n, part.integer? row = some n ∧ isInt64 n = true

theorem IsExact.exists_integer? (h : e.IsExact row) :
    ∃ n, e.integer? row = some n ∧ isInt64 n = true :=
  h.parts e e.mem_parts_self

theorem mem_fields_field : x ∈ (field name).fields ↔ x = name := by
  rw [fields, Text.mem_nameSet, mentions, List.mem_singleton]

theorem mem_fields_arithmetic :
    x ∈ (arithmetic op left right).fields ↔ x ∈ left.fields ∨ x ∈ right.fields := by
  simp only [fields, Text.mem_nameSet, mentions, List.mem_append]

theorem isExact_literal (h : isInt64 n = true) : (literal (.int n)).IsExact row :=
  ⟨nofun, List.forall_mem_singleton.mpr ⟨n, rfl, h⟩⟩

theorem isExact_field (h : row name = some (.int n)) (hfits : isInt64 n = true) :
    (field name).IsExact row := by
  refine ⟨fun x hx => ?_, List.forall_mem_singleton.mpr ⟨n, ?_, hfits⟩⟩
  · rw [mem_fields_field.mp hx, h]
    nofun
  · rw [integer?, h]
    rfl

theorem isExact_neg :
    (neg e).IsExact row ↔ e.IsExact row ∧ ∃ n, (neg e).integer? row = some n ∧
      isInt64 n = true := by
  constructor
  · rintro ⟨hknown, hparts⟩
    obtain ⟨hself, he⟩ := List.forall_mem_cons.mp hparts
    exact ⟨⟨hknown, he⟩, hself⟩
  · rintro ⟨⟨hknown, hparts⟩, hself⟩
    exact ⟨hknown, List.forall_mem_cons.mpr ⟨hself, hparts⟩⟩

theorem isExact_arithmetic :
    (arithmetic op left right).IsExact row ↔ (left.IsExact row ∧ right.IsExact row) ∧
      ∃ n, (arithmetic op left right).integer? row = some n ∧ isInt64 n = true := by
  constructor
  · rintro ⟨hknown, hparts⟩
    obtain ⟨hself, hoperands⟩ := List.forall_mem_cons.mp hparts
    obtain ⟨hleft, hright⟩ := List.forall_mem_append.mp hoperands
    exact ⟨⟨⟨fun x hx => hknown x (mem_fields_arithmetic.mpr (.inl hx)), hleft⟩,
      fun x hx => hknown x (mem_fields_arithmetic.mpr (.inr hx)), hright⟩, hself⟩
  · rintro ⟨⟨hleft, hright⟩, hself⟩
    refine ⟨fun x hx => ?_, List.forall_mem_cons.mpr ⟨hself, ?_⟩⟩
    · exact (mem_fields_arithmetic.mp hx).elim (hleft.known x) (hright.known x)
    · exact List.forall_mem_append.mpr ⟨hleft.parts, hright.parts⟩

theorem integer?_neg (h : e.integer? row = some n) : (neg e).integer? row = some (-n) := by
  rw [integer?, h, Option.map_some]

theorem integer?_arithmetic (hleft : left.integer? row = some i)
    (hright : right.integer? row = some j) :
    (arithmetic op left right).integer? row = op.result? i j := by
  rw [integer?, hleft, hright, Option.bind_some, Option.bind_some]

theorem evaluate_neg_int (h : e.evaluate row = .int n) :
    (neg e).evaluate row = ofInt? (fitted (-n)) := by
  rw [evaluate, h]
  rfl

theorem evaluate_neg_null (h : e.evaluate row = .null) : (neg e).evaluate row = .null := by
  rw [evaluate, h]
  rfl

theorem evaluate_arithmetic_int (hleft : left.evaluate row = .int i)
    (hright : right.evaluate row = .int j) :
    (arithmetic op left right).evaluate row = ofInt? ((op.result? i j).bind fitted) := by
  rw [evaluate, hleft, hright, ← op.onInts?_eq]
  rfl

theorem evaluate_arithmetic_null (h : left.evaluate row = .null ∨ right.evaluate row = .null) :
    (arithmetic op left right).evaluate row = .null := by
  rw [evaluate]
  rcases h with hleft | hright
  · rw [hleft]
    rfl
  · rw [hright]
    cases left.evaluate row <;> rfl

theorem evaluate_of_isExact (h : e.IsIntegral row) (hexact : e.IsExact row)
    (hn : e.integer? row = some n) :
    e.evaluate row = .int n := by
  induction h generalizing n with
  | literal =>
    cases hn
    rw [evaluate]
    rfl
  | field hfield =>
    rcases hfield with hnull | ⟨k, hk, -⟩
    · exact absurd hnull (hexact.known _ (mem_fields_field.mpr rfl))
    · rw [integer?, hk] at hn
      cases hn
      rw [evaluate, hk]
      rfl
  | neg _ ih =>
    obtain ⟨he, k, hk, hfits⟩ := isExact_neg.mp hexact
    obtain rfl : k = n := Option.some.inj (hk.symm.trans hn)
    obtain ⟨j, hj, rfl⟩ := Option.map_eq_some_iff.mp hk
    rw [evaluate_neg_int (ih he hj), fitted_of_isInt64 hfits]
    rfl
  | arithmetic op _ _ ihleft ihright =>
    obtain ⟨⟨hleft, hright⟩, k, hk, hfits⟩ := isExact_arithmetic.mp hexact
    obtain rfl : k = n := Option.some.inj (hk.symm.trans hn)
    obtain ⟨i, hi, -⟩ := hleft.exists_integer?
    obtain ⟨j, hj, -⟩ := hright.exists_integer?
    rw [evaluate_arithmetic_int (ihleft hleft hi) (ihright hright hj), ← integer?_arithmetic hi hj,
      hk, Option.bind_some, fitted_of_isInt64 hfits]
    rfl

/-- One null, or one result without a place in 64 bits, makes everything null that depends on it. -/
theorem evaluate_of_not_isExact (h : e.IsIntegral row) (hexact : ¬ e.IsExact row) :
    e.evaluate row = .null := by
  induction h with
  | literal hfits => exact absurd (isExact_literal hfits) hexact
  | field hfield =>
    rcases hfield with hnull | ⟨k, hk, hfits⟩
    · rw [evaluate, hnull]
    · exact absurd (isExact_field hk hfits) hexact
  | @neg e hintegral ih =>
    by_cases he : e.IsExact row
    · obtain ⟨k, hk, -⟩ := he.exists_integer?
      have hfits : ¬ isInt64 (-k) = true :=
        fun hfits => hexact (isExact_neg.mpr ⟨he, -k, integer?_neg hk, hfits⟩)
      rw [evaluate_neg_int (evaluate_of_isExact hintegral he hk), fitted_of_not_isInt64 hfits]
      rfl
    · exact evaluate_neg_null (ih he)
  | @arithmetic left right op hl hr ihleft ihright =>
    -- With exact operands it is the result itself that is none or does not fit.
    by_cases hleft : left.IsExact row
    · by_cases hright : right.IsExact row
      · obtain ⟨i, hi, -⟩ := hleft.exists_integer?
        obtain ⟨j, hj, -⟩ := hright.exists_integer?
        have hnone : (op.result? i j).bind fitted = none := by
          refine Option.bind_eq_none_iff.mpr fun k hk => fitted_of_not_isInt64 fun hfits =>
            hexact ?_
          exact isExact_arithmetic.mpr ⟨⟨hleft, hright⟩, k, (integer?_arithmetic hi hj).trans hk,
            hfits⟩
        rw [evaluate_arithmetic_int (evaluate_of_isExact hl hleft hi)
          (evaluate_of_isExact hr hright hj), hnone]
        rfl
      · exact evaluate_arithmetic_null (.inr (ihright hright))
    · exact evaluate_arithmetic_null (.inl (ihleft hleft))

/-- Integers in checks are added, subtracted, multiplied, divided and negated exactly, or the result
is null. -/
theorem evaluate_exact_or_null (h : e.IsIntegral row) :
    (∀ n, e.evaluate row = .int n ↔ e.IsExact row ∧ e.integer? row = some n) ∧
      (e.IsExact row → ∃ n, e.evaluate row = .int n ∧ isInt64 n = true) ∧
      (¬ e.IsExact row → e.evaluate row = .null) := by
  refine ⟨fun n => ⟨fun hvalue => ?_, fun ⟨hexact, hn⟩ => evaluate_of_isExact h hexact hn⟩,
    fun hexact => ?_, evaluate_of_not_isExact h⟩
  · by_cases hexact : e.IsExact row
    · obtain ⟨k, hk, -⟩ := hexact.exists_integer?
      rw [evaluate_of_isExact h hexact hk] at hvalue
      cases hvalue
      exact ⟨hexact, hk⟩
    · rw [evaluate_of_not_isExact h hexact] at hvalue
      cases hvalue
  · obtain ⟨k, hk, hfits⟩ := hexact.exists_integer?
    exact ⟨k, evaluate_of_isExact h hexact hk, hfits⟩

/-- An account with the least balance that there is, and a limit that is not known. -/
def overdrawnRow : String → Option Value
  | "balance" => some (.int (-9223372036854775808))
  | "limit" => some .null
  | _ => none

def debt : Expression :=
  .neg (.arithmetic .add (.field "balance") (.literal (.int 1)))

theorem evaluate_exact_or_null_account :
    (debt.IsExact overdrawnRow ∧ debt.evaluate overdrawnRow = .int 9223372036854775807) ∧
    (arithmetic .add debt (literal (.int 1))).evaluate overdrawnRow = .null ∧
    (arithmetic .div (field "balance") (neg (literal (.int 1)))).evaluate overdrawnRow = .null ∧
    (arithmetic .sub (field "limit") (field "balance")).evaluate overdrawnRow = .null := by
  have hone : (literal (.int 1)).IsIntegral overdrawnRow := .literal (by decide)
  have hbalance : (field "balance").IsIntegral overdrawnRow := .field (.inr ⟨_, rfl, by decide⟩)
  have hlimit : (field "limit").IsIntegral overdrawnRow := .field (.inl rfl)
  have hdebt : debt.IsIntegral overdrawnRow := .neg (.arithmetic .add hbalance hone)
  have hexact : debt.IsExact overdrawnRow :=
    isExact_neg.mpr ⟨isExact_arithmetic.mpr ⟨⟨isExact_field rfl (by decide),
      isExact_literal (by decide)⟩, -9223372036854775807, rfl, by decide⟩, 9223372036854775807, rfl,
      by decide⟩
  refine ⟨⟨hexact, ((evaluate_exact_or_null hdebt).1 _).mpr ⟨hexact, rfl⟩⟩, ?_, ?_, ?_⟩
  · refine (evaluate_exact_or_null (.arithmetic .add hdebt hone)).2.2 fun hsum => ?_
    obtain ⟨n, hn, hfits⟩ := hsum.exists_integer?
    cases hn
    cases hfits
  · refine (evaluate_exact_or_null (.arithmetic .div hbalance (.neg hone))).2.2 fun hquotient => ?_
    obtain ⟨n, hn, hfits⟩ := hquotient.exists_integer?
    cases hn
    cases hfits
  · refine (evaluate_exact_or_null (.arithmetic .sub hlimit hbalance)).2.2 fun hdifference => ?_
    exact hdifference.known "limit" (mem_fields_arithmetic.mpr (.inl (mem_fields_field.mpr rfl)))
      rfl

end Expression

end Fixtures.Check
