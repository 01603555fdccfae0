import Fixtures.Proofs.Check.Levels
import Fixtures.Proofs.Check.Lexing

namespace Fixtures.Check

open Expression Reader

variable {level own place : Level} {depth : Nat} {t : Token} {ts rest : List Token}
  {e left right low high : Expression} {es : List Expression} {negated : Bool} {keyword : String}

theorem affirmative_cons (h : t.isKeyword "not" = false) : Affirmative (t :: ts) := by
  intro t' ht'
  cases ht'
  exact h

theorem isKeyword_eq_false {name : String} (h : (field name).isPrintable)
    (hkeyword : keyword ∈ keywords) : (Token.name name).isKeyword keyword = false := by
  have hname : Text.lowerAscii name ∉ keywords := of_decide_eq_true h
  exact decide_eq_false fun heq => hname (heq ▸ hkeyword)

theorem affirmative_within (hplace : Level.predicate.rank ≤ place.rank)
    (h : Level.predicate.rank ≤ e.level.rank → ∀ rest, Affirmative (e.tokens ++ rest))
    (rest : List Token) : Affirmative (e.within place ++ rest) := by
  by_cases hlt : e.level.rank < place.rank
  · rw [within_of_lt hlt]
    exact affirmative_cons rfl
  · rw [within_of_le (Nat.le_of_not_lt hlt)]
    exact h (Nat.le_trans hplace (Nat.le_of_not_lt hlt)) rest

theorem affirmative_tokens (h : e.isPrintable) (hlevel : Level.predicate.rank ≤ e.level.rank)
    (rest : List Token) : Affirmative (e.tokens ++ rest) := by
  induction e using Expression.induction generalizing rest with
  | literal l =>
    cases l with
    | null => exact affirmative_cons (by decide)
    | bool b => cases b <;> exact affirmative_cons (by decide)
    | int n => exact affirmative_cons rfl
    | decimal x => cases h
    | text s => exact affirmative_cons rfl
  | field name => exact affirmative_cons (isKeyword_eq_false h (by decide))
  | not e | or left right | and left right => simp [level, Level.rank] at hlevel
  | neg e => exact affirmative_cons rfl
  | compare op left right ih =>
    rw [tokens_compare, List.append_assoc]
    exact affirmative_within (by decide) (ih (Bool.and_eq_true_iff.mp h).1) _
  | arithmetic op left right ih =>
    rw [tokens_arithmetic, List.append_assoc]
    exact affirmative_within hlevel (ih (Bool.and_eq_true_iff.mp h).1) _
  | oneOf negated e items ih =>
    cases items with
    | nil => simp [isPrintable] at h
    | cons item items =>
      rw [isPrintable, Bool.and_eq_true, Bool.and_eq_true] at h
      rw [tokens_oneOf, List.append_assoc]
      exact affirmative_within (by decide) (ih h.1.1) _
  | between negated e low high ih =>
    rw [isPrintable, Bool.and_eq_true, Bool.and_eq_true] at h
    rw [tokens_between, List.append_assoc]
    exact affirmative_within (by decide) (ih h.1.1) _
  | isNull negated e ih =>
    rw [tokens_isNull, List.append_assoc]
    exact affirmative_within (by decide) (ih h) _

def ReadsAt (level : Level) (depth : Nat) (ts : List Token) (e : Expression) : Prop :=
  ∀ rest, Stops level rest → level.reader (nested depth) (ts ++ rest) = .ok (e, rest)

def ChainsAt (level : Level) (depth : Nat) (ts : List Token) (e : Expression) : Prop :=
  ∀ rest, Stops level.tighter rest →
    Chains level.operator? (level.tighter.reader (nested depth)) (ts ++ rest) e rest

theorem ReadsAt.looser (h : ReadsAt own depth ts e) (hle : level.rank ≤ own.rank)
    (haffirmative : Level.predicate.rank ≤ own.rank → ∀ rest, Affirmative (ts ++ rest)) :
    ReadsAt level depth ts e :=
  fun rest hstops => reader_of_rank_le hle (h rest (hstops.mono hle)) hstops
    fun hlevel => haffirmative hlevel rest

theorem ReadsAt.chains (h : ReadsAt level.tighter depth ts e) : ChainsAt level depth ts e :=
  fun rest hstops => chains_of_operand (h rest hstops)

theorem ChainsAt.reads (h : ChainsAt level depth ts e) (hchained : level.isChained) :
    ReadsAt level depth ts e := by
  intro rest hstops
  rw [Level.reader_of_isChained hchained]
  exact (h rest (hstops.mono (Level.rank_le_tighter level))).read
    (hstops.operator?_eq_none hchained)

theorem ReadsAt.parenthesized (h : ReadsAt .disjunction depth ts e) :
    ReadsAt .primary (depth + 1) (.leftParen :: (ts ++ [.rightParen])) e := by
  intro rest _
  have hgroup : nested (depth + 1) (ts ++ .rightParen :: rest) = .ok (e, .rightParen :: rest) :=
    h (.rightParen :: rest) (stops_cons (by decide))
  rw [List.cons_append, List.append_assoc]
  refine bind_eq_ok.mpr ⟨_, hgroup, bind_eq_ok.mpr ⟨rest, ?_, rfl⟩⟩
  rw [expect, if_pos rfl]

/-- All readers of levels that an expression has or that are looser read it. -/
structure Readable (e : Expression) : Prop where
  reads : ∀ depth (level : Level), e.tokens.length ≤ depth → level.rank ≤ e.level.rank →
    ReadsAt level depth e.tokens e
  chains : ∀ depth (level : Level), e.tokens.length ≤ depth → level.rank ≤ e.level.rank →
    level.isChained → ChainsAt level depth e.tokens e

namespace Readable

theorem of_reads (h : e.isPrintable)
    (hreads : ∀ depth, e.tokens.length ≤ depth → ReadsAt e.level depth e.tokens e)
    (hchains : e.level.isChained →
      ∀ depth, e.tokens.length ≤ depth → ChainsAt e.level depth e.tokens e) : Readable e := by
  have hlooser : ∀ depth (level : Level), e.tokens.length ≤ depth → level.rank ≤ e.level.rank →
      ReadsAt level depth e.tokens e :=
    fun depth level hlength hle => (hreads depth hlength).looser hle (affirmative_tokens h)
  refine ⟨hlooser, fun depth level hlength hle hchained => ?_⟩
  rcases Nat.eq_or_lt_of_le hle with heq | hlt
  · obtain rfl := Level.rank_injective heq
    exact hchains hchained depth hlength
  · refine (hlooser depth level.tighter hlength ?_).chains
    rw [Level.rank_tighter hlt]
    exact hlt

theorem enclosed (h : Readable e) (hlt : e.level.rank < place.rank)
    (hlength : (e.within place).length ≤ depth) (hle : level.rank ≤ Level.primary.rank) :
    ReadsAt level depth (e.within place) e := by
  rw [within_of_lt hlt] at hlength ⊢
  cases depth with
  | zero => simp at hlength
  | succ depth =>
    have hinner : ReadsAt .disjunction depth e.tokens e := by
      refine h.reads depth .disjunction ?_ (Nat.zero_le _)
      simp at hlength
      omega
    exact hinner.parenthesized.looser hle fun _ _ => affirmative_cons rfl

theorem reads_within (h : Readable e) (hlength : (e.within place).length ≤ depth) :
    ReadsAt place depth (e.within place) e := by
  by_cases hlt : e.level.rank < place.rank
  · exact h.enclosed hlt hlength (Level.rank_le_primary place)
  · rw [within_of_le (Nat.le_of_not_lt hlt)] at hlength ⊢
    exact h.reads depth place hlength (Nat.le_of_not_lt hlt)

theorem chains_within (h : Readable e) (hlength : (e.within place).length ≤ depth)
    (hchained : place.isChained) : ChainsAt place depth (e.within place) e := by
  by_cases hlt : e.level.rank < place.rank
  · exact (h.enclosed hlt hlength (Level.rank_le_primary place.tighter)).chains
  · rw [within_of_le (Nat.le_of_not_lt hlt)] at hlength ⊢
    exact h.chains depth place hlength (Nat.le_of_not_lt hlt) hchained

/-- Expressions of an operator between a left operand of the same level and a tighter right one. -/
theorem chained {combine : Expression → Expression → Expression} (level : Level)
    (hprintable : e.isPrintable) (hlevel : e.level = level) (hchained : level.isChained)
    (hleft : Readable left) (hright : Readable right)
    (htokens : e.tokens = left.within level ++ t :: right.within level.tighter)
    (hop : level.operator? t = some combine) (he : combine left right = e)
    (hstops : ∀ rest, Stops level.tighter (t :: rest)) : Readable e := by
  subst hlevel
  have hchains : ∀ depth, e.tokens.length ≤ depth → ChainsAt e.level depth e.tokens e := by
    intro depth hlength rest hrest
    rw [htokens, List.length_append, List.length_cons] at hlength
    have hl := hleft.chains_within (by omega : _ ≤ depth) hchained
      (t :: (right.within e.level.tighter ++ rest)) (hstops _)
    have hr := hright.reads_within (by omega : _ ≤ depth) rest hrest
    have hsnoc := hl.snoc hop hr (by simp)
    rw [he] at hsnoc
    rwa [htokens, List.append_assoc]
  exact of_reads hprintable (fun depth hlength => (hchains depth hlength).reads hchained)
    fun _ => hchains

theorem of_primary (hprintable : e.isPrintable) (hlevel : e.level = .primary)
    (htokens : e.tokens = [t])
    (h : ∀ group rest, primary group (t :: rest) = .ok (e, rest)) : Readable e := by
  refine of_reads hprintable (fun depth _ rest _ => ?_) fun hchained => ?_
  · rw [hlevel, htokens]
    exact h (nested depth) rest
  · rw [hlevel] at hchained
    cases hchained

theorem ofName_eq_field {name : String} (h : (field name).isPrintable) :
    ofName name = field name := by
  have hname : Text.lowerAscii name ∉ keywords := of_decide_eq_true h
  rw [ofName]
  split
  next heq => exact absurd (heq ▸ by decide) hname
  next heq => exact absurd (heq ▸ by decide) hname
  next heq => exact absurd (heq ▸ by decide) hname
  next => rfl

theorem natOfDigits_toString (n : Nat) : Text.natOfDigits (toString n).toList = n := by
  rw [Nat.toString_eq_ofList_toDigits, String.toList_ofList, Text.natOfDigits_eq,
    Nat.ofDigitChars_ten_toDigits]

theorem all_isDigit_toString (n : Nat) : (toString n).toList.all Char.isDigit := by
  rw [Nat.toString_eq_ofList_toDigits, String.toList_ofList, List.all_eq_true]
  exact fun _ => Nat.isDigit_of_mem_toDigits (by decide) (by decide)

theorem ofNumeral_toString {n : Int} (h : isPrintableLiteral (.int n)) :
    ofNumeral (toString n.toNat) = .ok (.literal (.int n)) := by
  simp only [isPrintableLiteral, Bool.and_eq_true, decide_eq_true_eq] at h
  obtain ⟨hnonneg, hmax⟩ := h
  have hn : (n.toNat : Int) = n := Int.toNat_of_nonneg hnonneg
  have hint64 : Binary64.isInt64 n := by
    rw [Binary64.isInt64, Bool.and_eq_true, decide_eq_true_eq, decide_eq_true_eq]
    exact ⟨Int.le_trans (by decide) hnonneg, hmax⟩
  rw [ofNumeral, natOfDigits_toString, hn, all_isDigit_toString, hint64]
  rfl

theorem of_literal {l : Literal} (h : (literal l).isPrintable) : Readable (literal l) := by
  cases l with
  | null => exact of_primary h rfl rfl fun _ _ => rfl
  | bool b => cases b <;> exact of_primary h rfl rfl fun _ _ => rfl
  | int n =>
    refine of_primary h rfl rfl fun group rest => ?_
    change (ofNumeral (toString n.toNat)).map _ = _
    rw [ofNumeral_toString h]
    rfl
  | decimal x => cases h
  | text s => exact of_primary h rfl rfl fun _ _ => rfl

theorem of_field {name : String} (h : (field name).isPrintable) : Readable (field name) := by
  refine of_primary h rfl rfl fun group rest => ?_
  rw [← ofName_eq_field h]
  rfl

theorem of_neg (hprintable : (neg e).isPrintable) (h : Readable e) : Readable (neg e) := by
  refine of_reads hprintable (fun depth hlength rest hrest => ?_) nofun
  rw [tokens_neg] at hlength ⊢
  have he : signed (nested depth) (e.within .signed ++ rest) = .ok (e, rest) :=
    h.reads_within (Nat.le_of_succ_le hlength) rest hrest
  change (signed (nested depth) (e.within .signed ++ rest)).map _ = _
  rw [he]
  rfl

theorem of_not (hprintable : (not e).isPrintable) (h : Readable e) : Readable (not e) := by
  refine of_reads hprintable (fun depth hlength rest hrest => ?_) nofun
  rw [tokens_not] at hlength ⊢
  have he : negation (nested depth) (e.within .negation ++ rest) = .ok (e, rest) :=
    h.reads_within (Nat.le_of_succ_le hlength) rest hrest
  change negation (nested depth) (.name "NOT" :: (e.within .negation ++ rest)) = _
  rw [negation, if_pos (by decide), he]
  rfl

theorem of_or (hprintable : (or left right).isPrintable) (hleft : Readable left)
    (hright : Readable right) : Readable (or left right) :=
  chained .disjunction hprintable rfl rfl hleft hright tokens_or
    (keywordOperator?_of_isKeyword (by decide)) rfl fun _ => stops_cons (by decide)

theorem of_and (hprintable : (and left right).isPrintable) (hleft : Readable left)
    (hright : Readable right) : Readable (and left right) :=
  chained .conjunction hprintable rfl rfl hleft hright tokens_and
    (keywordOperator?_of_isKeyword (by decide)) rfl fun _ => stops_cons (by decide)

theorem of_arithmetic {op : Arithmetic} (hprintable : (arithmetic op left right).isPrintable)
    (hleft : Readable left) (hright : Readable right) : Readable (arithmetic op left right) := by
  have hchained : op.level.isChained := by cases op <;> rfl
  have hop : op.level.operator? op.lexeme.token = some (arithmetic op) := by cases op <;> rfl
  have hstops : ∀ rest, Stops op.level.tighter (op.lexeme.token :: rest) := by
    cases op <;> exact fun _ => stops_cons (by decide)
  exact chained op.level hprintable rfl hchained hleft hright tokens_arithmetic hop rfl hstops

theorem sum_within (h : Readable e) (hlength : (e.within .sum).length ≤ depth)
    (hrest : Stops .sum rest) : sum (nested depth) (e.within .sum ++ rest) = .ok (e, rest) :=
  h.reads_within hlength rest hrest

theorem of_compare {op : Comparison} (hprintable : (compare op left right).isPrintable)
    (hleft : Readable left) (hright : Readable right) : Readable (compare op left right) := by
  have hop : comparison? op.lexeme.token = some op := by cases op <;> rfl
  have hstops : ∀ rest, Stops .sum (op.lexeme.token :: rest) := by
    cases op <;> exact fun _ => stops_cons (by decide)
  refine of_reads hprintable (fun depth hlength rest hrest => ?_) nofun
  rw [tokens_compare] at hlength ⊢
  rw [List.length_append, List.length_cons] at hlength
  rw [List.append_assoc]
  exact predicate_compare (hleft.sum_within (by omega) (hstops _)) hop
    (hright.sum_within (by omega) (Stops.sum_of_predicate hrest))

theorem of_isNull (hprintable : (isNull negated e).isPrintable) (h : Readable e) :
    Readable (isNull negated e) := by
  refine of_reads hprintable (fun depth hlength rest hrest => ?_) nofun
  rw [tokens_isNull] at hlength ⊢
  rw [List.length_append] at hlength
  rw [List.append_assoc, List.cons_append, List.append_assoc]
  exact predicate_isNull (h.sum_within (by omega) (stops_cons (by decide)))

theorem of_between (hprintable : (between negated e low high).isPrintable) (h : Readable e)
    (hlow : Readable low) (hhigh : Readable high) : Readable (between negated e low high) := by
  refine of_reads hprintable (fun depth hlength rest hrest => ?_) nofun
  rw [tokens_between] at hlength ⊢
  simp only [List.length_append, List.length_cons] at hlength
  simp only [List.append_assoc, List.cons_append]
  have hlimits : limits (nested depth)
      (low.within .sum ++ .name "AND" :: (high.within .sum ++ rest)) = .ok ((low, high), rest) :=
    limits_eq_ok (hlow.sum_within (by omega) (stops_cons (by decide)))
      (hhigh.sum_within (by omega) (Stops.sum_of_predicate hrest))
  exact predicate_of_tail
    (h.sum_within (by omega) (stops_nots fun _ => stops_cons (by decide)))
    (skipKeyword_is_nots (by decide)) (predicateTail_between hlimits)

theorem of_oneOf (hprintable : (oneOf negated e es).isPrintable) (h : Readable e)
    (hes : ∀ item ∈ es, Readable item) : Readable (oneOf negated e es) := by
  refine of_reads hprintable (fun depth hlength rest hrest => ?_) nofun
  cases es with
  | nil => simp [isPrintable] at hprintable
  | cons first es =>
    rw [tokens_oneOf] at hlength ⊢
    simp only [List.length_append, List.length_cons] at hlength
    simp only [List.append_assoc, List.cons_append]
    have hitems : items (nested depth) (.leftParen :: (first.within .sum ++
        (es.flatMap (fun item => .comma :: item.within .sum) ++ .rightParen :: rest))) =
        .ok (first :: es, rest) := by
      refine items_eq_ok fun item hitem rest hrest => (hes item hitem).sum_within ?_ hrest
      rcases List.mem_cons.mp hitem with rfl | hmore
      · omega
      · have hlong := length_of_mem_more (within .sum) hmore
        omega
    exact predicate_of_tail
      (h.sum_within (by omega) (stops_nots fun _ => stops_cons (by decide)))
      (skipKeyword_is_nots (by decide)) (predicateTail_oneOf hitems)

end Readable

theorem readable (h : e.isPrintable) : Readable e := by
  induction e using Expression.induction with
  | literal l => exact .of_literal h
  | field name => exact .of_field h
  | not e ih => exact .of_not h (ih h)
  | neg e ih => exact .of_neg h (ih h)
  | or left right ihleft ihright =>
    obtain ⟨hleft, hright⟩ := Bool.and_eq_true_iff.mp h
    exact .of_or h (ihleft hleft) (ihright hright)
  | and left right ihleft ihright =>
    obtain ⟨hleft, hright⟩ := Bool.and_eq_true_iff.mp h
    exact .of_and h (ihleft hleft) (ihright hright)
  | compare op left right ihleft ihright =>
    obtain ⟨hleft, hright⟩ := Bool.and_eq_true_iff.mp h
    exact .of_compare h (ihleft hleft) (ihright hright)
  | arithmetic op left right ihleft ihright =>
    obtain ⟨hleft, hright⟩ := Bool.and_eq_true_iff.mp h
    exact .of_arithmetic h (ihleft hleft) (ihright hright)
  | oneOf negated e items ih ihitems =>
    have hall := h
    rw [isPrintable, Bool.and_eq_true, Bool.and_eq_true, arePrintable_eq_all,
      List.all_eq_true] at hall
    obtain ⟨⟨he, -⟩, hitems⟩ := hall
    exact .of_oneOf h (ih he) fun item hitem => ihitems item hitem (hitems item hitem)
  | between negated e low high ih ihlow ihhigh =>
    have hall := h
    rw [isPrintable, Bool.and_eq_true, Bool.and_eq_true] at hall
    obtain ⟨⟨he, hlow⟩, hhigh⟩ := hall
    exact .of_between h (ih he) (ihlow hlow) (ihhigh hhigh)
  | isNull negated e ih => exact .of_isNull h (ih h)

theorem ofTokens_tokens (h : e.isPrintable) : ofTokens e.tokens = .ok e := by
  have hread := (readable h).reads e.tokens.length .disjunction (Nat.le_refl _) (Nat.zero_le _) []
    stops_nil
  rw [List.append_nil] at hread
  exact bind_eq_ok.mpr ⟨_, hread, rfl⟩

/-- Parsing gives back what was printed. -/
theorem parse_print (h : e.isPrintable) : parse e.print = .ok e :=
  bind_eq_ok.mpr ⟨e.tokens, ofText_print h, ofTokens_tokens h⟩

def sample : Expression :=
  .and (.not (.between true (.field "a \"b\"") (.neg (.literal (.int 1))) (.literal (.int 9))))
    (.or (.oneOf false (.arithmetic .mul (.arithmetic .add (.field "x") (.field "y")) (.field "z"))
        [.literal (.text "it's"), .literal .null])
      (.isNull true (.arithmetic .sub (.field "x")
        (.arithmetic .sub (.field "y") (.literal (.bool true))))))

theorem parse_print_sample :
    sample.isPrintable = true ∧
      sample.print =
        "NOT \"a \"\"b\"\"\" NOT BETWEEN - 1 AND 9 AND ( ( \"x\" + \"y\" ) * \"z\" IN ( 'it''s' " ++
          ", NULL ) OR \"x\" - ( \"y\" - TRUE ) IS NOT NULL )" ∧
      parse sample.print = .ok sample :=
  ⟨by decide, by decide, parse_print (by decide)⟩

end Fixtures.Check
