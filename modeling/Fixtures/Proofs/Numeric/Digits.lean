import Fixtures.Numeric.Decimal
import Fixtures.Text.CharClass

namespace Fixtures.Text

variable {c : Char}

theorem isBlank_of_isDigit (h : c.isDigit) : isBlank c = false := by
  have hbounds : 48 ≤ c.toNat ∧ c.toNat ≤ 57 := by
    simpa [Char.isDigit, UInt32.le_iff_toNat_le] using h
  simp [isBlank, whiteSpace, CodePoints.contains]
  omega

theorem natOfDigits_eq (ds : List Char) : natOfDigits ds = Nat.ofDigitChars 10 ds 0 := by
  simp only [natOfDigits, Nat.ofDigitChars, Nat.mul_comm 10]
  rfl

end Fixtures.Text

namespace Fixtures

variable {m n : Int} {c : Char}

theorem toList_toString (n : Int) : (toString n).toList =
    if 0 ≤ n then Nat.toDigits 10 n.toNat else '-' :: Nat.toDigits 10 (-n).toNat := by
  rw [Int.toString_eq_repr, Int.repr_eq_if]
  split
  · exact Nat.toList_repr
  · rw [String.toList_append, Nat.toList_repr]
    rfl

def IsIntegerMark (c : Char) : Prop :=
  c = '-' ∨ c.isDigit = true

theorem isIntegerMark_of_mem_toString (h : c ∈ (toString n).toList) : IsIntegerMark c := by
  rw [toList_toString] at h
  split at h
  · exact .inr (Nat.isDigit_of_mem_toDigits (by decide) (by decide) h)
  · rcases List.mem_cons.mp h with rfl | hdigit
    · exact .inl rfl
    · exact .inr (Nat.isDigit_of_mem_toDigits (by decide) (by decide) hdigit)

theorem toDigits_injective {m n : Nat} (h : Nat.toDigits 10 m = Nat.toDigits 10 n) : m = n := by
  calc
    m = Nat.ofDigitChars 10 (Nat.toDigits 10 m) 0 := Nat.ofDigitChars_ten_toDigits.symm
    _ = Nat.ofDigitChars 10 (Nat.toDigits 10 n) 0 := by rw [h]
    _ = n := Nat.ofDigitChars_ten_toDigits

theorem toDigits_ne_minus {k : Nat} {cs : List Char} : Nat.toDigits 10 k ≠ '-' :: cs := by
  intro h
  have hdigit : ('-' : Char).isDigit = true :=
    Nat.isDigit_of_mem_toDigits (n := k) (by decide) (by decide) (h ▸ List.mem_cons_self)
  cases hdigit

theorem toString_injective (h : toString m = toString n) : m = n := by
  have hlists := congrArg String.toList h
  rw [toList_toString, toList_toString] at hlists
  split at hlists <;> split at hlists
  · have := toDigits_injective hlists
    omega
  · exact absurd hlists toDigits_ne_minus
  · exact absurd hlists.symm toDigits_ne_minus
  · have := toDigits_injective (List.cons.inj hlists).2
    omega

namespace Decimal

theorem isDigit_of_mem_positional {digits : List Char} {point : Int}
    (h : ∀ c ∈ digits, c.isDigit = true) :
    ∀ c ∈ (positional digits point).1 ++ (positional digits point).2, c.isDigit = true := by
  have hzeros : ∀ n, ∀ c ∈ List.replicate n '0', c.isDigit = true := by
    intro n c hc
    rw [List.eq_of_mem_replicate hc]
    rfl
  intro c hc
  unfold positional at hc
  split at hc
  · simp only [List.mem_append, List.mem_singleton] at hc
    rcases hc with rfl | hzero | hdigit
    · rfl
    · exact hzeros _ c hzero
    · exact h c hdigit
  · simp only at hc
    split at hc
    · simp only [List.append_nil, List.mem_append] at hc
      exact hc.elim (h c) (hzeros _ c)
    · rw [List.take_append_drop] at hc
      exact h c hc

/-- A digit, or a mark of a number that is not written with digits alone. -/
def IsDecimalMark (c : Char) : Prop :=
  c.isDigit = true ∨ c ∈ ['-', '.', 'N', 'a', 'i', 'n', 'f']

theorem isDecimalMark_of_mem_word {word : String}
    (hword : word ∈ ["NaN", "-inf", "inf", "-", ".", ""])
    (h : c ∈ word.toList) : IsDecimalMark c := by
  have hall : (["NaN", "-inf", "inf", "-", ".", ""].all fun word => word.toList.all fun c =>
      c ∈ ['-', '.', 'N', 'a', 'i', 'n', 'f']) = true := by decide
  simp only [List.all_eq_true, decide_eq_true_eq] at hall
  exact .inr (hall word hword c h)

theorem isDecimalMark_of_mem_parts {negative : Bool} {parts : List Char × List Char}
    (hparts : ∀ c ∈ parts.1 ++ parts.2, c.isDigit = true)
    (h : c ∈ (signText negative ++ String.ofList parts.1 ++
      (if parts.2.isEmpty then "" else "." ++ String.ofList parts.2)).toList) :
      IsDecimalMark c := by
  simp only [String.toList_append, List.mem_append, String.toList_ofList] at h hparts
  rcases h with (hsign | hwhole) | hfraction
  · unfold signText at hsign
    split at hsign <;> exact isDecimalMark_of_mem_word (by simp) hsign
  · exact .inl (hparts c (.inl hwhole))
  · split at hfraction
    · exact isDecimalMark_of_mem_word (by simp) hfraction
    · rw [String.toList_append, List.mem_append] at hfraction
      rcases hfraction with hpoint | hdigit
      · exact isDecimalMark_of_mem_word (show "." ∈ _ by simp) hpoint
      · exact .inl (hparts c (.inr (by simpa using hdigit)))

theorem isDecimalMark_of_mem_plain {x : Float} (h : c ∈ (plain x).toList) : IsDecimalMark c := by
  unfold plain at h
  split at h
  · split at h
    · exact isDecimalMark_of_mem_word (by simp) h
    · split at h <;> exact isDecimalMark_of_mem_word (by simp) h
  · next p _ =>
    let digits := Shortest.digitsOf (Shortest.shortest .up p.mantissa p.exponent).digits
    have hparts : ∀ point, ∀ c ∈ (if p.mantissa = 0 then (['0'], [])
      else positional digits point).1 ++
        (if p.mantissa = 0 then (['0'], []) else positional digits point).2, c.isDigit = true := by
      intro point
      split
      · simp
      · exact isDigit_of_mem_positional fun c hc =>
          Nat.isDigit_of_mem_toDigits (by decide) (by decide) hc
    exact isDecimalMark_of_mem_parts (hparts _) h

end Decimal

end Fixtures
