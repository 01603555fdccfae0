import Fixtures.Proofs.Check.Reading

namespace Fixtures.Check

open Text Token Expression Lexeme

variable {s : String} {ls before after : List Lexeme} {group : Reader Expression}

theorem printed_singleton (l : Lexeme) : printed [l] = l.spelling := by
  rw [printed, List.map_singleton]
  exact String.intercalate_singleton

theorem ofText_quoted (s : String) : ofText (quotedWith '"' s) = .ok [.name s] := by
  have hread : ofText (printed [Lexeme.field s]) = .ok [.name s] :=
    ofText_printed (List.forall_mem_singleton.mpr (isRead_field s))
  rwa [printed_singleton] at hread

namespace Expression

theorem ofName_eq_field_iff : ofName s = .field s ↔ lowerAscii s ∉ ["null", "true", "false"] := by
  unfold ofName
  split <;> simp_all

theorem ofTokens_name (h : lowerAscii s ≠ "not") : ofTokens [.name s] = .ok (ofName s) := by
  have hprimary : Level.primary.reader (nested 1) [.name s] = .ok (ofName s, []) := rfl
  have hread : Level.disjunction.reader (nested 1) [.name s] = .ok (ofName s, []) :=
    reader_of_rank_le (Nat.zero_le _) hprimary stops_nil fun _ =>
    affirmative_cons (decide_eq_false h)
  exact bind_eq_ok.mpr ⟨_, hread, rfl⟩

theorem negation_of_not (h : lowerAscii s = "not") :
    negation group [.name s] = .error .unexpectedEnd := by
  have hkeyword : (Token.name s).isKeyword "not" = true := decide_eq_true h
  rw [negation, if_pos hkeyword]
  rfl

theorem ofTokens_not (h : lowerAscii s = "not") : ofTokens [.name s] = .error .unexpectedEnd := by
  have hconjunction : ∀ group, conjunction group [.name s] = .error .unexpectedEnd := by
    intro group
    rw [conjunction, Reader.leftAssociative, negation_of_not h]
    rfl
  have hdisjunction : nested 2 [.name s] = .error .unexpectedEnd := by
    rw [nested, disjunction, Reader.leftAssociative, hconjunction]
    rfl
  exact bind_eq_error.mpr (.inl hdisjunction)

theorem parse_quoted (s : String) : parse (quotedWith '"' s) = ofTokens [.name s] := by
  rw [parse, ofText_quoted]
  rfl

theorem parse_printed (h : ∀ l ∈ ls, l.IsRead) :
    parse (printed ls) = ofTokens (ls.map Lexeme.token) := by
  rw [parse, ofText_printed h]
  rfl

theorem parse_quoted_word (h : ∀ l ∈ before ++ after, l.IsRead) (hword : isWord s.toList = true) :
    parse (printed (before ++ Lexeme.field s :: after)) =
      parse (printed (before ++ Lexeme.keyword s :: after)) := by
  obtain ⟨hbefore, hafter⟩ := List.forall_mem_append.mp h
  have hread : ∀ l : Lexeme, l.IsRead → ∀ l' ∈ before ++ l :: after, l'.IsRead := fun l hl =>
    List.forall_mem_append.mpr ⟨hbefore, List.forall_mem_cons.mpr ⟨hl, hafter⟩⟩
  rw [parse_printed (hread _ (isRead_field s)), parse_printed (hread _ (isRead_keyword hword)),
    List.map_append, List.map_append, List.map_cons, List.map_cons]
  rfl

theorem parse_quoted_eq_field_iff :
    parse (quotedWith '"' s) = .ok (.field s) ↔
      lowerAscii s ∉ ["not", "null", "true", "false"] := by
  rw [parse_quoted, List.mem_cons, not_or, ← ofName_eq_field_iff]
  by_cases hnot : lowerAscii s = "not"
  · rw [ofTokens_not hnot]
    exact iff_of_false nofun fun h => h.1 hnot
  · rw [ofTokens_name hnot, Except.ok.injEq]
    exact (and_iff_right hnot).symm

theorem parse_quoted_of_literal {l : Literal} (hnot : lowerAscii s ≠ "not")
    (h : ofName s = .literal l) :
    parse (quotedWith '"' s) = .ok (.literal l) := by
  rw [parse_quoted, ofTokens_name hnot, h]

/-- A quoted name is the field of this name unless it is `NOT`, after which something would have to
come, or one of the literals that are words. In any check a word in quotes is read as without
them. -/
theorem quotes_do_not_protect (s : String) :
    (parse (quotedWith '"' s) = .ok (.field s) ↔ lowerAscii s ∉ ["not", "null", "true", "false"]) ∧
    (lowerAscii s = "not" → parse (quotedWith '"' s) = .error .unexpectedEnd) ∧
    (lowerAscii s = "null" → parse (quotedWith '"' s) = .ok (.literal .null)) ∧
    (lowerAscii s = "true" → parse (quotedWith '"' s) = .ok (.literal (.bool true))) ∧
    (lowerAscii s = "false" → parse (quotedWith '"' s) = .ok (.literal (.bool false))) ∧
    ∀ before after : List Lexeme, (∀ l ∈ before ++ after, l.IsRead) → isWord s.toList = true →
      parse (printed (before ++ Lexeme.field s :: after)) =
        parse (printed (before ++ Lexeme.keyword s :: after)) := by
  refine ⟨parse_quoted_eq_field_iff, fun hnot => ?_, fun hnull => ?_, fun htrue => ?_,
    fun hfalse => ?_, fun _ _ => parse_quoted_word⟩
  · rw [parse_quoted, ofTokens_not hnot]
  · refine parse_quoted_of_literal (by rw [hnull]; decide) ?_
    rw [ofName, hnull]
    rfl
  · refine parse_quoted_of_literal (by rw [htrue]; decide) ?_
    rw [ofName, htrue]
    rfl
  · refine parse_quoted_of_literal (by rw [hfalse]; decide) ?_
    rw [ofName, hfalse]
    rfl

theorem quotes_do_not_protect_null :
    parse "\"total\"" = .ok (.field "total") ∧ parse "\"Not\"" = .error .unexpectedEnd ∧
      parse "\"Null\"" = .ok (.literal .null) ∧
      parse "\"total\" = \"Null\"" = parse "\"total\" = Null" := by
  obtain ⟨hfield, -⟩ := quotes_do_not_protect "total"
  obtain ⟨-, hnot, -⟩ := quotes_do_not_protect "Not"
  obtain ⟨-, -, hnull, -, -, hword⟩ := quotes_do_not_protect "Null"
  have hequation : ∀ l ∈ [Lexeme.field "total", Comparison.eq.lexeme] ++ [], l.IsRead := by
    rw [List.append_nil, List.forall_mem_cons, List.forall_mem_singleton]
    exact ⟨isRead_field "total", isRead_comparison .eq⟩
  exact ⟨hfield.mpr (by decide), hnot (by decide), hnull (by decide),
    hword _ _ hequation (by decide)⟩

/-- Quotes do not make a field of the name of a literal, nor of `not` where it stands first. -/
theorem reserved_names_are_no_fields :
    parse "\"null\"" ≠ .ok (.field "null") ∧ parse "\"not\"" ≠ .ok (.field "not") := by
  have hfield : ∀ s, parse (quotedWith '"' s) = .ok (.field s) →
      lowerAscii s ∉ ["not", "null", "true", "false"] :=
    fun _ => parse_quoted_eq_field_iff.mp
  exact ⟨fun h => hfield "null" h (by decide), fun h => hfield "not" h (by decide)⟩

end Expression

end Fixtures.Check
