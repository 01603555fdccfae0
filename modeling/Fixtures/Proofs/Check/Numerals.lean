import Fixtures.Proofs.Check.Arithmetic
import Fixtures.Proofs.Check.Reading
import Fixtures.Proofs.Numeric.Digits
import Fixtures.Proofs.Numeric.Nearest

namespace Fixtures.Check

open Binary64 Expression Token Value

variable {e : Expression} {digits : String} {cs : List Char} {ts : List Token} {x : Float}
    {size k : Nat}
  {n : Int}

theorem toList_toString_natAbs (n : Int) : (toString n).toList =
    if 0 ≤ n then (toString n.natAbs).toList else '-' :: (toString n.natAbs).toList := by
  rw [toList_toString, Nat.toString_eq_ofList_toDigits, String.toList_ofList]
  split
  · next h => rw [show n.toNat = n.natAbs by omega]
  · next h => rw [show (-n).toNat = n.natAbs by omega]

theorem ofChars_minus : ofChars size ('-' :: cs) = (ofChars size cs).map (.minus :: ·) := by
  rw [ofChars, if_neg (by decide)]
  rfl

theorem ofChars_numeral (size k : Nat) :
    ofChars size (toString k).toList = .ok [.number (toString k)] := by
  have hread : ofChars size ((Lexeme.numeral k).spelling.toList ++ []) = _ :=
    ofChars_lexeme (isRead_numeral k) apart_nil
  rwa [List.append_nil, ofChars] at hread

theorem ofText_toString (n : Int) : ofText (toString n) =
    .ok (if 0 ≤ n then [.number (toString n.natAbs)] else [.minus,
        .number (toString n.natAbs)]) := by
  rw [ofText, toList_toString_natAbs]
  split
  · exact ofChars_numeral ..
  · rw [ofChars_minus, ofChars_numeral]
    rfl

theorem ofTokens_of_signed (h : ∀ group, signed group ts = .ok (e, []))
    (haffirmative : Affirmative ts) :
    ofTokens ts = .ok e := by
  have hsigned : Level.signed.reader (nested ts.length) ts = .ok (e, []) := h _
  have hread : Level.disjunction.reader (nested ts.length) ts = .ok (e, []) :=
    reader_of_rank_le (Nat.zero_le _) hsigned stops_nil fun _ => haffirmative
  exact bind_eq_ok.mpr ⟨_, hread, rfl⟩

theorem signed_number (h : ofNumeral digits = .ok e) (group : Reader Expression) :
    signed group [.number digits] = .ok (e, []) := by
  refine signed_of_primary ?_
  rw [primary, h]
  rfl

theorem signed_minus (h : ofNumeral digits = .ok e) (group : Reader Expression) :
    signed group [.minus, .number digits] = .ok (.neg e, []) := by
  rw [signed, signed_number h]
  rfl

theorem parse_toString_eq (h : ofNumeral (toString n.natAbs) = .ok e) :
    parse (toString n) = .ok (if 0 ≤ n then e else .neg e) := by
  refine bind_eq_ok.mpr ⟨_, ofText_toString n, ?_⟩
  split
  · exact ofTokens_of_signed (signed_number h) (affirmative_cons rfl)
  · exact ofTokens_of_signed (signed_minus h) (affirmative_cons rfl)

theorem exists_digits (k : Nat) :
    ∃ c cs, toString k = String.ofList (c :: cs) ∧ ∀ d ∈ c :: cs, d.isDigit = true := by
  obtain ⟨c, cs, hcs⟩ := List.exists_cons_of_ne_nil (Nat.toDigits_ne_nil (n := k) (b := 10))
  refine ⟨c, cs, by rw [Nat.toString_eq_ofList_toDigits, hcs], fun d hd => ?_⟩
  exact Nat.isDigit_of_mem_toDigits (by decide) (by decide) (hcs ▸ hd)

theorem exists_read?_toString (k : Nat) : ∃ x, Decimal.read? (toString k) = some x := by
  obtain ⟨c, cs, hcs, hdigits⟩ := exists_digits k
  rw [hcs]
  exact Option.isSome_iff_exists.mp (isSome_read?_of_digits hdigits)

theorem read?_toString (h : Decimal.read? (toString n.natAbs) = some x) :
    Decimal.read? (toString n) = some (if 0 ≤ n then x else -x) := by
  have htext := toList_toString_natAbs n
  split at htext
  · next hn =>
    have hsame : toString n = toString n.natAbs := String.toList_injective htext
    rw [if_pos hn, hsame, h]
  · next hn =>
    obtain ⟨c, cs, hcs, hdigits⟩ := exists_digits n.natAbs
    rw [hcs, String.toList_ofList] at htext
    rw [hcs, Decimal.read?, String.toList_ofList, signOf_of_isDigit (hdigits c List.mem_cons_self)]
      at h
    have hsign : Decimal.signOf ('-' :: c :: cs) = (true, c :: cs) := rfl
    rw [if_neg hn, Decimal.read?, htext, hsign]
    obtain ⟨y, hy, rfl⟩ := Option.map_eq_some_iff.mp h
    exact Option.map_eq_some_iff.mpr ⟨y, hy, rfl⟩

theorem ofNumeral_of_le (h : (k : Int) ≤ maxInt64) :
    ofNumeral (toString k) = .ok (.literal (.int k)) := by
  have hprintable : isPrintableLiteral (.int k) = true := by simp [isPrintableLiteral, h]
  have hread := Readable.ofNumeral_toString hprintable
  rwa [Int.toNat_natCast] at hread

theorem ofNumeral_of_lt (h : maxInt64 < (k : Int)) (hx : Decimal.read? (toString k) = some x) :
    ofNumeral (toString k) = .ok (.literal (.decimal x)) := by
  have hfits : isInt64 (k : Int) = false := by simp [isInt64, h]
  rw [ofNumeral, Readable.natOfDigits_toString, hfits, Bool.and_false, if_neg Bool.false_ne_true,
    hx]

theorem isInt64_of_natAbs_le (h : (n.natAbs : Int) ≤ maxInt64) : isInt64 n = true := by
  rw [isInt64_iff]
  unfold maxInt64 at h
  omega

theorem exists_parse_int (h : (n.natAbs : Int) ≤ maxInt64) :
    ∃ e, parse (toString n) = .ok e ∧ ∀ row, e.evaluate row = .int n := by
  refine ⟨_, parse_toString_eq (ofNumeral_of_le h), fun row => ?_⟩
  have hliteral : (literal (.int n.natAbs)).evaluate row = .int n.natAbs := by
    rw [evaluate]
    rfl
  split
  · next hn => rw [hliteral, Int.natAbs_of_nonneg hn]
  · next hn =>
    have hopposite : -(n.natAbs : Int) = n := by omega
    rw [evaluate_neg_int hliteral, hopposite, fitted_of_isInt64 (isInt64_of_natAbs_le h)]
    rfl

theorem exists_parse_decimal (h : maxInt64 < (n.natAbs : Int))
    (hx : Decimal.read? (toString n.natAbs) = some x) :
    ∃ e, parse (toString n) = .ok e ∧
      ∀ row, e.evaluate row = .decimal (if 0 ≤ n then x else -x) := by
  refine ⟨_, parse_toString_eq (ofNumeral_of_lt h hx), fun row => ?_⟩
  split
  · rw [evaluate]
    rfl
  · rw [evaluate, evaluate]
    rfl

/-- An integer is read as itself if its digits alone are a 64-bit integer, and as a floating-point
number otherwise. -/
theorem parse_toString (n : Int) :
    ∃ e x, parse (toString n) = .ok e ∧ Decimal.read? (toString n) = some x ∧
    ∀ row, e.evaluate row = if (n.natAbs : Int) ≤ maxInt64 then .int n else .decimal x := by
  obtain ⟨x, hx⟩ := exists_read?_toString n.natAbs
  by_cases hle : (n.natAbs : Int) ≤ maxInt64
  · obtain ⟨e, he, hvalue⟩ := exists_parse_int hle
    exact ⟨e, _, he, read?_toString hx, fun row => by rw [hvalue, if_pos hle]⟩
  · obtain ⟨e, he, hvalue⟩ := exists_parse_decimal (Int.not_le.mp hle) hx
    exact ⟨e, _, he, read?_toString hx, fun row => by rw [hvalue, if_neg hle]⟩

/-- The least 64-bit integer cannot be written in a check. -/
theorem least_integer_is_decimal :
    (∃ e, parse "-9223372036854775808" = .ok e ∧
        ∀ row, e.evaluate row = .decimal (-9223372036854775808)) ∧
    ¬ ∀ n, isInt64 n = true → ∃ e, parse (toString n) = .ok e ∧ ∀ row, e.evaluate row = .int n := by
  -- The digits alone are one more than the greatest 64-bit integer.
  have hx : Decimal.read? (toString (minInt64.natAbs)) = some 9223372036854775808 := by
    decide +kernel
  have htext : toString minInt64 = "-9223372036854775808" := by decide +kernel
  obtain ⟨e, he, hvalue⟩ := exists_parse_decimal (n := minInt64) (by decide) hx
  simp only [if_neg (show ¬ 0 ≤ minInt64 by decide)] at hvalue
  refine ⟨⟨e, htext ▸ he, hvalue⟩, fun h => ?_⟩
  obtain ⟨e', he', hvalue'⟩ := h minInt64 (by decide)
  obtain rfl : e' = e := Except.ok.inj (he'.symm.trans he)
  have hsame := (hvalue' fun _ => none).symm.trans (hvalue fun _ => none)
  cases hsame

end Fixtures.Check
