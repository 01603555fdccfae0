import Mathlib.Data.List.TakeWhile
import Fixtures.Proofs.Check.Printing
import Fixtures.Proofs.Numeric.Digits

namespace Fixtures.Check

open Text Token

variable {quote c : Char} {cs rest : List Char} {offset size : Nat} {l : Lexeme} {ls : List Lexeme}

def Apart (rest : List Char) : Prop :=
  ∀ c ∈ rest.head?, c = ' '

theorem apart_nil : Apart [] := by
  simp [Apart]

theorem apart_blank : Apart (' ' :: cs) := by
  simp [Apart]

theorem takeWhile_of_apart {p : Char → Bool} (hcs : ∀ c ∈ cs, p c) (hblank : p ' ' = false)
    (hrest : Apart rest) : (cs ++ rest).takeWhile p = cs ∧ (cs ++ rest).dropWhile p = rest := by
  rw [List.takeWhile_append_of_pos hcs, List.dropWhile_append_of_pos hcs]
  cases rest with
  | nil => simp
  | cons d rest =>
    obtain rfl := hrest d rfl
    simp [hblank]

def Lexeme.IsRead (l : Lexeme) : Prop :=
  ∃ c cs, l.spelling.toList = c :: cs ∧ isBlank c = false ∧
    ∀ offset rest, Apart rest → first offset c (cs ++ rest) = .ok (l.token, rest)

theorem first_of_isNumberChar (h : isNumberChar c) :
    first offset c cs = (numeral (String.ofList (c :: cs.takeWhile isNumberChar))).map fun t =>
      (t, cs.dropWhile isNumberChar) := by
  unfold first
  split
  case h_18 => rw [if_pos h]
  all_goals exact absurd h (by decide)

theorem first_of_isNameStart (h : isNameStart c) (hnumber : isNumberChar c = false) :
    first offset c cs =
      .ok (.name (String.ofList (c :: cs.takeWhile isNameChar)), cs.dropWhile isNameChar) := by
  unfold first
  split
  case h_18 => rw [if_neg (by simp [hnumber]), if_pos h]
  all_goals exact absurd h (by decide)

def isWord : List Char → Bool
  | [] => false
  | c :: cs => isNameStart c && !isNumberChar c && !isBlank c && cs.all isNameChar

theorem isRead_keyword {word : String} (h : isWord word.toList) : (Lexeme.keyword word).IsRead := by
  cases hword : word.toList with
  | nil => simp [hword, isWord] at h
  | cons c cs =>
    simp only [hword, isWord, Bool.and_eq_true, Bool.not_eq_true', List.all_eq_true] at h
    obtain ⟨⟨⟨hname, hnumber⟩, hblank⟩, hcs⟩ := h
    refine ⟨c, cs, hword, hblank, fun offset rest hrest => ?_⟩
    obtain ⟨htake, hdrop⟩ := takeWhile_of_apart hcs (by decide) hrest
    rw [first_of_isNameStart hname hnumber, htake, hdrop, ← hword, String.ofList_toList]
    rfl

theorem quoted_cons (hc : c ≠ quote) (hcs : cs ≠ []) :
    quoted quote (c :: cs) = (quoted quote cs).map fun r => (c :: r.1, r.2) := by
  obtain ⟨d, cs, rfl⟩ := List.exists_cons_of_ne_nil hcs
  rw [quoted, if_neg hc]

theorem quoted_doubled (s : List Char) (hrest : quote ∉ rest.head?) :
    quoted quote (s.flatMap (fun c => if c = quote then [c, c] else [c]) ++ quote :: rest) =
      .ok (s, rest) := by
  induction s with
  | nil =>
    cases rest with
    | nil => simp [quoted]
    | cons d rest =>
      have hd : d ≠ quote := fun h => hrest (by simp [h])
      simp [quoted, hd]
  | cons c s ih =>
    rw [List.flatMap_cons, List.append_assoc]
    by_cases hc : c = quote
    · subst hc
      rw [if_pos rfl, List.cons_append, List.cons_append, List.nil_append, quoted, if_pos rfl,
        if_pos rfl, ih]
      rfl
    · rw [if_neg hc, List.cons_append, List.nil_append, quoted_cons hc (by simp), ih]
      rfl

theorem Apart.not_mem_head? (h : Apart rest) (hquote : quote ≠ ' ') : quote ∉ rest.head? :=
  fun hmem => hquote (h quote hmem)

theorem isRead_quoted (token : String → Token) (quote : Char) (hblank : isBlank quote = false)
    (hfirst : ∀ offset cs, first offset quote cs =
      (quoted quote cs).map fun r => (token (String.ofList r.1), r.2)) (s : String) :
    Lexeme.IsRead ⟨token s, Lexeme.quotedWith quote s⟩ := by
  refine ⟨quote, s.toList.flatMap (fun c => if c = quote then [c, c] else [c]) ++ [quote],
    by rw [Lexeme.quotedWith, String.toList_ofList]; rfl, hblank, fun offset rest hrest => ?_⟩
  have hquote : quote ≠ ' ' := by
    rintro rfl
    exact absurd hblank (by decide)
  rw [hfirst, List.append_assoc, List.singleton_append,
    quoted_doubled _ (hrest.not_mem_head? hquote)]
  simp [Except.map]

theorem isRead_text (s : String) : (Lexeme.text s).IsRead :=
  isRead_quoted .text '\'' (by decide) (fun _ _ => by rw [first]) s

theorem isRead_field (name : String) : (Lexeme.field name).IsRead :=
  isRead_quoted .name '"' (by decide) (fun _ _ => by rw [first]) name

theorem signOf_of_isDigit (hc : c.isDigit) : Decimal.signOf (c :: cs) = (false, c :: cs) := by
  unfold Decimal.signOf
  split
  next heq =>
    cases heq
    exact absurd hc (by decide)
  next heq =>
    cases heq
    exact absurd hc (by decide)
  next => rfl

theorem isSome_read?_of_digits (hcs : ∀ d ∈ c :: cs, d.isDigit) :
    (Decimal.read? (String.ofList (c :: cs))).isSome := by
  have hspan : Decimal.spanDigits (c :: cs) = (c :: cs, []) := by
    rw [Decimal.spanDigits, List.takeWhile_eq_self_iff.mpr hcs, List.dropWhile_eq_nil_iff.mpr hcs]
  have hunsigned : (Decimal.unsigned? (c :: cs)).isSome := by
    simp [Decimal.unsigned?, hspan, Decimal.exponent?]
  rw [Decimal.read?, String.toList_ofList, signOf_of_isDigit (hcs c List.mem_cons_self),
    Option.isSome_map]
  split
  · rfl
  · rfl
  · rfl
  · exact hunsigned

theorem isNumberChar_of_isDigit (h : c.isDigit) : isNumberChar c := by
  simp [isNumberChar, h]

theorem isRead_numeral (n : Nat) : (Lexeme.numeral n).IsRead := by
  have hdigits : ∀ d ∈ Nat.toDigits 10 n, d.isDigit :=
    fun _ => Nat.isDigit_of_mem_toDigits (by decide) (by decide)
  obtain ⟨c, cs, hcs⟩ := List.exists_cons_of_ne_nil (Nat.toDigits_ne_nil (n := n) (b := 10))
  rw [hcs] at hdigits
  have hc : c.isDigit := hdigits c List.mem_cons_self
  have hspelling : toString n = String.ofList (c :: cs) := by
    rw [Nat.toString_eq_ofList_toDigits, hcs]
  refine ⟨c, cs, ?_, isBlank_of_isDigit hc, fun offset rest hrest => ?_⟩
  · rw [Lexeme.numeral, hspelling, String.toList_ofList]
  · obtain ⟨htake, hdrop⟩ := takeWhile_of_apart
      (fun d hd => isNumberChar_of_isDigit (hdigits d (List.mem_cons_of_mem c hd)))
      (by decide) hrest
    rw [first_of_isNumberChar (isNumberChar_of_isDigit hc), htake, hdrop, numeral,
      if_pos (isSome_read?_of_digits hdigits), Lexeme.numeral, hspelling]
    rfl

theorem isRead_leftParen : Lexeme.leftParen.IsRead :=
  ⟨'(', [], rfl, by decide, fun _ _ _ => rfl⟩

theorem isRead_rightParen : Lexeme.rightParen.IsRead :=
  ⟨')', [], rfl, by decide, fun _ _ _ => rfl⟩

theorem isRead_comma : Lexeme.comma.IsRead :=
  ⟨',', [], rfl, by decide, fun _ _ _ => rfl⟩

theorem isRead_minus : Lexeme.minus.IsRead :=
  ⟨'-', [], rfl, by decide, fun _ _ _ => rfl⟩

theorem isRead_arithmetic (op : Arithmetic) : op.lexeme.IsRead := by
  cases op with
  | add => exact ⟨'+', [], rfl, by decide, fun _ _ _ => rfl⟩
  | sub => exact isRead_minus
  | mul => exact ⟨'*', [], rfl, by decide, fun _ _ _ => rfl⟩
  | div => exact ⟨'/', [], rfl, by decide, fun _ _ _ => rfl⟩

theorem first_of_apart {t : Token} (hnil : first offset c [] = .ok (t, []))
    (hblank : ∀ cs, first offset c (' ' :: cs) = .ok (t, ' ' :: cs)) (hrest : Apart rest) :
    first offset c rest = .ok (t, rest) := by
  cases rest with
  | nil => exact hnil
  | cons d rest =>
    obtain rfl := hrest d rfl
    exact hblank rest

theorem isRead_comparison (op : Comparison) : op.lexeme.IsRead := by
  cases op with
  | eq => exact ⟨'=', [], rfl, by decide, fun _ _ => first_of_apart rfl fun _ => rfl⟩
  | ne => exact ⟨'!', ['='], rfl, by decide, fun _ _ _ => rfl⟩
  | lt => exact ⟨'<', [], rfl, by decide, fun _ _ => first_of_apart rfl fun _ => rfl⟩
  | le => exact ⟨'<', ['='], rfl, by decide, fun _ _ _ => rfl⟩
  | gt => exact ⟨'>', [], rfl, by decide, fun _ _ => first_of_apart rfl fun _ => rfl⟩
  | ge => exact ⟨'>', ['='], rfl, by decide, fun _ _ _ => rfl⟩

theorem ofChars_blank : ofChars size (' ' :: cs) = ofChars size cs := by
  rw [ofChars, if_pos (by decide)]

theorem ofChars_lexeme (h : l.IsRead) (hrest : Apart rest) :
    ofChars size (l.spelling.toList ++ rest) = (ofChars size rest).map (l.token :: ·) := by
  obtain ⟨c, cs, hspelling, hblank, hfirst⟩ := h
  rw [hspelling, List.cons_append, ofChars, if_neg (by simp [hblank])]
  split
  next e he =>
    rw [hfirst _ _ hrest] at he
    cases he
  next t rest' he =>
    rw [hfirst _ _ hrest] at he
    cases he
    rfl

theorem ofText_printed (h : ∀ l ∈ ls, l.IsRead) :
    ofText (Lexeme.printed ls) = .ok (ls.map Lexeme.token) := by
  rw [ofText, Lexeme.printed, joined, String.toList_intercalate]
  generalize (String.intercalate " " (ls.map Lexeme.spelling)).utf8ByteSize = size
  induction ls with
  | nil => rw [List.map_nil, List.map_nil, List.intercalate_nil, ofChars]; rfl
  | cons l ls ih =>
    have hl : l.IsRead := h l List.mem_cons_self
    have hls : ∀ l ∈ ls, l.IsRead := fun l' hl' => h l' (List.mem_cons_of_mem l hl')
    cases ls with
    | nil =>
      rw [List.map_singleton, List.map_singleton, List.intercalate_singleton,
        ← List.append_nil l.spelling.toList, ofChars_lexeme hl apart_nil, ofChars]
      rfl
    | cons l' ls =>
      rw [List.map_cons, List.map_cons, List.map_cons, List.map_cons, List.intercalate_cons_cons,
        List.append_assoc]
      refine (ofChars_lexeme hl apart_blank).trans ?_
      rw [ofChars_blank]
      exact congrArg (Except.map (l.token :: ·)) (ih hls)

theorem isRead_enclosed {place own : Level} (h : ∀ l ∈ ls, l.IsRead) :
    ∀ l ∈ Expression.enclosed place own ls, l.IsRead := by
  rw [Expression.enclosed]
  split
  · rw [List.forall_mem_append, List.forall_mem_cons, List.forall_mem_singleton]
    exact ⟨⟨isRead_leftParen, h⟩, isRead_rightParen⟩
  · exact h

theorem isRead_optionalNot (negated : Bool) :
    ∀ l ∈ Expression.optionalNot negated, l.IsRead := by
  cases negated with
  | true => exact List.forall_mem_singleton.mpr (isRead_keyword (by decide))
  | false => exact List.forall_mem_nil _

theorem isRead_intercalate {lss : List (List Lexeme)} (h : ∀ ls ∈ lss, ∀ l ∈ ls, l.IsRead) :
    ∀ l ∈ [Lexeme.comma].intercalate lss, l.IsRead := by
  induction lss with
  | nil => exact List.forall_mem_nil _
  | cons ls lss ih =>
    obtain ⟨hls, hlss⟩ := List.forall_mem_cons.mp h
    cases lss with
    | nil => rwa [List.intercalate_singleton]
    | cons ls' lss =>
      rw [List.intercalate_cons_cons, List.forall_mem_append, List.forall_mem_append,
        List.forall_mem_singleton]
      exact ⟨⟨hls, isRead_comma⟩, ih hlss⟩

theorem isRead_literal {literal : Literal} (h : Expression.isPrintableLiteral literal) :
    (Expression.literalLexeme literal).IsRead := by
  cases literal with
  | null => exact isRead_keyword (by decide)
  | bool b => cases b <;> exact isRead_keyword (by decide)
  | int n => exact isRead_numeral n.toNat
  | decimal x => cases h
  | text s => exact isRead_text s

theorem isRead_lexemes {e : Expression} (h : e.isPrintable) : ∀ l ∈ e.lexemes, l.IsRead := by
  induction e using Expression.induction with
  | literal l => exact List.forall_mem_singleton.mpr (isRead_literal h)
  | field name => exact List.forall_mem_singleton.mpr (isRead_field name)
  | not e ih =>
    rw [Expression.lexemes, List.forall_mem_cons]
    exact ⟨isRead_keyword (by decide), isRead_enclosed (ih h)⟩
  | neg e ih =>
    rw [Expression.lexemes, List.forall_mem_cons]
    exact ⟨isRead_minus, isRead_enclosed (ih h)⟩
  | or left right ihleft ihright | and left right ihleft ihright =>
    obtain ⟨hleft, hright⟩ := Bool.and_eq_true_iff.mp h
    rw [Expression.lexemes, List.forall_mem_append, List.forall_mem_cons]
    exact ⟨isRead_enclosed (ihleft hleft), isRead_keyword (by decide),
      isRead_enclosed (ihright hright)⟩
  | compare op left right ihleft ihright =>
    obtain ⟨hleft, hright⟩ := Bool.and_eq_true_iff.mp h
    rw [Expression.lexemes, List.forall_mem_append, List.forall_mem_cons]
    exact ⟨isRead_enclosed (ihleft hleft), isRead_comparison op, isRead_enclosed (ihright hright)⟩
  | arithmetic op left right ihleft ihright =>
    obtain ⟨hleft, hright⟩ := Bool.and_eq_true_iff.mp h
    rw [Expression.lexemes, List.forall_mem_append, List.forall_mem_cons]
    exact ⟨isRead_enclosed (ihleft hleft), isRead_arithmetic op, isRead_enclosed (ihright hright)⟩
  | oneOf negated e items ih ihitems =>
    rw [Expression.isPrintable, Bool.and_eq_true, Bool.and_eq_true, Expression.arePrintable_eq_all,
      List.all_eq_true] at h
    obtain ⟨⟨he, -⟩, hitems⟩ := h
    simp only [Expression.lexemes, List.forall_mem_append, List.forall_mem_cons]
    refine ⟨⟨⟨isRead_enclosed (ih he), isRead_optionalNot negated⟩,
      isRead_keyword (by decide), isRead_leftParen, isRead_intercalate ?_⟩,
      isRead_rightParen, List.forall_mem_nil _⟩
    rw [Expression.lexemesOf_eq_map, List.forall_mem_map]
    exact fun item hitem => isRead_enclosed (ihitems item hitem (hitems item hitem))
  | between negated e low high ih ihlow ihhigh =>
    rw [Expression.isPrintable, Bool.and_eq_true, Bool.and_eq_true] at h
    obtain ⟨⟨he, hlow⟩, hhigh⟩ := h
    simp only [Expression.lexemes, List.forall_mem_append, List.forall_mem_cons]
    exact ⟨⟨⟨isRead_enclosed (ih he), isRead_optionalNot negated⟩,
      isRead_keyword (by decide), isRead_enclosed (ihlow hlow)⟩,
      isRead_keyword (by decide), isRead_enclosed (ihhigh hhigh)⟩
  | isNull negated e ih =>
    simp only [Expression.lexemes, List.forall_mem_append, List.forall_mem_cons]
    exact ⟨⟨isRead_enclosed (ih h), isRead_keyword (by decide),
      isRead_optionalNot negated⟩, isRead_keyword (by decide), List.forall_mem_nil _⟩

theorem ofText_print {e : Expression} (h : e.isPrintable) :
    ofText e.print = .ok (e.lexemes.map Lexeme.token) :=
  ofText_printed (isRead_lexemes h)

end Fixtures.Check
