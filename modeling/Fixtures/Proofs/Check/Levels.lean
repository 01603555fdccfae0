import Fixtures.Check.Parser
import Fixtures.Proofs.Check.Printing
import Fixtures.Proofs.Outcome

namespace Fixtures.Check

open Expression Reader

section

variable {α : Type} {group : Reader Expression} {level other own : Level} {keyword : String}
  {t : Token} {ts more rest : List Token} {e left : Expression}

namespace Level

def reader (group : Reader Expression) : Level → Reader Expression
  | disjunction => Expression.disjunction group
  | conjunction => Expression.conjunction group
  | negation => Expression.negation group
  | predicate => Expression.predicate group
  | sum => Expression.sum group
  | product => Expression.product group
  | signed => Expression.signed group
  | primary => Expression.primary group

def operator? : Level → Token → Option (Expression → Expression → Expression)
  | disjunction => keywordOperator? "or" .or
  | conjunction => keywordOperator? "and" .and
  | sum => sumOperator?
  | product => productOperator?
  | negation | predicate | signed | primary => fun _ => none

def isChained : Level → Bool
  | disjunction | conjunction | sum | product => true
  | negation | predicate | signed | primary => false

/-- Whether a token goes on with an operand of a level to an expression of this very level. -/
def continues : Level → Token → Bool
  | predicate, t =>
    (comparison? t).isSome || ["is", "not", "in", "between"].any fun keyword => t.isKeyword keyword
  | level, t => (level.operator? t).isSome

theorem reader_of_isChained (h : level.isChained) :
    level.reader group = leftAssociative level.operator? (level.tighter.reader group) := by
  cases level with
  | disjunction | conjunction | sum | product => rfl
  | negation | predicate | signed | primary => cases h

theorem continues_of_isChained (h : level.isChained) :
    level.continues t = (level.operator? t).isSome := by
  cases level with
  | disjunction | conjunction | sum | product => rfl
  | negation | predicate | signed | primary => cases h

theorem rank_injective (h : level.rank = own.rank) : level = own := by
  cases level <;> cases own <;> first | rfl | cases h

theorem rank_tighter (h : level.rank < own.rank) : level.tighter.rank = level.rank + 1 := by
  cases level with
  | primary => cases own <;> simp [rank] at h
  | _ => rfl

theorem rank_le_tighter (level : Level) : level.rank ≤ level.tighter.rank := by
  cases level <;> decide

theorem rank_le_primary (level : Level) : level.rank ≤ primary.rank := by
  cases level <;> decide

end Level

/-- Nothing that goes on with an expression of a level or a tighter one. -/
def Stops (level : Level) (rest : List Token) : Prop :=
  ∀ t ∈ rest.head?, ∀ other : Level, level.rank ≤ other.rank → other.continues t = false

theorem stops_nil : Stops level [] :=
  nofun

theorem stops_cons
    (h : ∀ other ∈ Level.all, level.rank ≤ other.rank → other.continues t = false) :
    Stops level (t :: rest) := by
  intro t' ht' other
  cases ht'
  exact h other (by cases other <;> decide)

theorem Stops.mono (h : Stops level rest) (hle : level.rank ≤ other.rank) : Stops other rest :=
  fun t ht tighter htighter => h t ht tighter (Nat.le_trans hle htighter)

theorem Stops.sum_of_predicate (h : Stops .predicate rest) : Stops .sum rest :=
  h.mono (by decide)

theorem Stops.operator?_eq_none (h : Stops level rest) (hchained : level.isChained) :
    ∀ t ∈ rest.head?, level.operator? t = none := by
  intro t ht
  have hcontinues := h t ht level (Nat.le_refl _)
  rwa [Level.continues_of_isChained hchained, Option.isSome_eq_false_iff,
    Option.isNone_iff_eq_none] at hcontinues

section

variable {operator? : Token → Option (α → α → α)} {combine : α → α → α} {operand : Reader α}
    {a b : α}

theorem chain_of_stops (h : ∀ t ∈ rest.head?, operator? t = none)
    (rounds : Nat) : chain operator? operand rounds a rest = .ok (a, rest) := by
  cases rounds with
  | zero => rw [chain]
  | succ rounds =>
    cases rest with
    | nil => rw [chain]
    | cons t rest => rw [chain, h t rfl]

/-- A left operand has been read, and the rounds that are left are enough for the rest. -/
def Chains (operator? : Token → Option (α → α → α)) (operand : Reader α) (ts : List Token) (a : α)
    (rest : List Token) : Prop :=
  ∃ rounds, rest.length ≤ rounds ∧
    leftAssociative operator? operand ts = chain operator? operand rounds a rest

theorem chains_of_operand (h : operand ts = .ok (a, rest)) :
    Chains operator? operand ts a rest := by
  refine ⟨rest.length, Nat.le_refl _, ?_⟩
  rw [leftAssociative, h]
  rfl

theorem Chains.snoc (h : Chains operator? operand ts a (t :: more))
    (hop : operator? t = some combine)
    (hb : operand more = .ok (b, rest)) (hlength : rest.length ≤ more.length) :
    Chains operator? operand ts (combine a b) rest := by
  obtain ⟨rounds, hrounds, hchain⟩ := h
  cases rounds with
  | zero => simp at hrounds
  | succ rounds =>
    refine ⟨rounds, Nat.le_trans hlength (Nat.le_of_succ_le_succ hrounds), ?_⟩
    rw [hchain, chain, hop]
    simp only [hb]
    rfl

theorem Chains.read (h : Chains operator? operand ts a rest)
    (hstops : ∀ t ∈ rest.head?, operator? t = none) :
    leftAssociative operator? operand ts = .ok (a, rest) := by
  obtain ⟨rounds, -, hchain⟩ := h
  rw [hchain, chain_of_stops hstops]

end

theorem skipKeyword_cons (h : t.isKeyword keyword) :
    skipKeyword keyword (t :: ts) = (true, ts) := by
  rw [skipKeyword, if_pos h]

theorem skipKeyword_cons_eq_false (h : t.isKeyword keyword = false) :
    skipKeyword keyword (t :: ts) = (false, t :: ts) := by
  rw [skipKeyword, if_neg (by simp [h])]

theorem expectKeyword_cons (h : t.isKeyword keyword) :
    expectKeyword keyword (t :: ts) = .ok ts := by
  rw [expectKeyword, skipKeyword_cons h]

theorem skipKeyword_eq_false (h : ∀ t ∈ ts.head?, t.isKeyword keyword = false) :
    skipKeyword keyword ts = (false, ts) := by
  cases ts with
  | nil => rw [skipKeyword]
  | cons t ts => exact skipKeyword_cons_eq_false (h t rfl)

theorem skipKeyword_of_stops (keyword : String) (h : Stops .predicate rest)
    (hkeyword : keyword ∈ ["is", "not", "in", "between"]) :
    skipKeyword keyword rest = (false, rest) := by
  refine skipKeyword_eq_false fun t ht => ?_
  have hcontinues := h t ht .predicate (Nat.le_refl _)
  rw [Level.continues, Bool.or_eq_false_iff, List.any_eq_false] at hcontinues
  simpa using hcontinues.2 keyword hkeyword

theorem keywordOperator?_of_isKeyword {combine : Expression → Expression → Expression}
    (h : t.isKeyword keyword) : keywordOperator? keyword combine t = some combine :=
  if_pos h

def Affirmative (ts : List Token) : Prop :=
  ∀ t ∈ ts.head?, t.isKeyword "not" = false

theorem signed_of_primary (h : primary group ts = .ok (e, rest)) :
    signed group ts = .ok (e, rest) := by
  unfold signed
  split
  · cases h
  · exact h

theorem comparison?_of_stops (h : Stops .predicate rest) (ht : t ∈ rest.head?) :
    comparison? t = none := by
  have hcontinues := h t ht .predicate (Nat.le_refl _)
  rw [Level.continues, Bool.or_eq_false_iff] at hcontinues
  simpa using hcontinues.1

theorem predicate_of_tail {b : Expression × List Token} (h : sum group ts = .ok (e, more))
    (his : skipKeyword "is" more = (false, more)) (htail : predicateTail group e more = .ok b) :
    predicate group ts = .ok b := by
  rw [predicate]
  refine bind_eq_ok.mpr ⟨(e, more), h, ?_⟩
  simp only [his, htail]

theorem predicate_of_sum (h : sum group ts = .ok (e, rest)) (hstops : Stops .predicate rest) :
    predicate group ts = .ok (e, rest) := by
  refine predicate_of_tail h (skipKeyword_of_stops "is" hstops (by decide)) ?_
  rw [predicateTail]
  simp only [skipKeyword_of_stops "not" hstops (by decide),
    skipKeyword_of_stops "in" hstops (by decide), skipKeyword_of_stops "between" hstops (by decide)]
  cases rest with
  | nil => rfl
  | cons t rest => simp [comparison?_of_stops hstops rfl]

theorem negation_of_predicate (h : predicate group ts = .ok (e, rest))
    (haffirmative : Affirmative ts) :
    negation group ts = .ok (e, rest) := by
  cases ts with
  | nil => rwa [negation]
  | cons t ts => rwa [negation, if_neg (by simp [haffirmative t rfl])]

theorem reader_of_tighter (h : level.tighter.reader group ts = .ok (e, rest))
    (hstops : Stops level rest) (haffirmative : level = .negation → Affirmative ts) :
    level.reader group ts = .ok (e, rest) := by
  cases level with
  | disjunction | conjunction | sum | product =>
    exact (chains_of_operand h).read (hstops.operator?_eq_none rfl)
  | negation => exact negation_of_predicate h (haffirmative rfl)
  | predicate => exact predicate_of_sum h hstops
  | signed => exact signed_of_primary h
  | primary => exact h

theorem reader_of_rank_le (hle : level.rank ≤ own.rank) (h : own.reader group ts = .ok (e, rest))
    (hstops : Stops level rest)
    (haffirmative : Level.predicate.rank ≤ own.rank → Affirmative ts) :
    level.reader group ts = .ok (e, rest) := by
  induction hsteps : own.rank - level.rank generalizing level with
  | zero =>
    obtain rfl : level = own := Level.rank_injective (by omega)
    exact h
  | succ steps ih =>
    have hlt : level.rank < own.rank := by omega
    have htighter : level.tighter.rank = level.rank + 1 := Level.rank_tighter hlt
    have hread : level.tighter.reader group ts = .ok (e, rest) :=
      ih (by omega) (hstops.mono (by omega)) (by omega)
    refine reader_of_tighter hread hstops fun heq => haffirmative ?_
    subst heq
    change Level.negation.tighter.rank ≤ own.rank
    omega

end

section

variable {group : Reader Expression} {rounds : Nat} {keyword : String} {t : Token}
  {ts more rest : List Token} {e left right low high : Expression} {es : List Expression}
  {negated : Bool}

theorem isKeyword_of_comparison? {op : Comparison} (h : comparison? t = some op) :
    t.isKeyword keyword = false := by
  cases t with
  | name s => cases h
  | _ => rfl

theorem predicate_compare {op : Comparison} (hleft : sum group ts = .ok (left, t :: more))
    (hop : comparison? t = some op) (hright : sum group more = .ok (right, rest)) :
    predicate group ts = .ok (.compare op left right, rest) := by
  have hskip : ∀ keyword, skipKeyword keyword (t :: more) = (false, t :: more) :=
    fun _ => skipKeyword_cons_eq_false (isKeyword_of_comparison? hop)
  refine predicate_of_tail hleft (hskip "is") ?_
  rw [predicateTail]
  simp only [hskip, hop, hright]
  rfl

theorem skipKeyword_nots (h : t.isKeyword "not" = false) :
    skipKeyword "not" (nots negated ++ t :: ts) = (negated, t :: ts) := by
  cases negated with
  | false => exact skipKeyword_cons_eq_false h
  | true => exact skipKeyword_cons (by decide)

theorem skipKeyword_is_nots (h : t.isKeyword "is" = false) :
    skipKeyword "is" (nots negated ++ t :: ts) = (false, nots negated ++ t :: ts) := by
  cases negated with
  | false => exact skipKeyword_cons_eq_false h
  | true => exact skipKeyword_cons_eq_false (by decide)

theorem stops_nots (h : ∀ ts, Stops .sum (t :: ts)) : Stops .sum (nots negated ++ t :: ts) := by
  cases negated with
  | false => exact h ts
  | true => exact stops_cons (by decide)

theorem predicate_isNull
    (h : sum group ts = .ok (e, .name "IS" :: (nots negated ++ .name "NULL" :: rest))) :
    predicate group ts = .ok (.isNull negated e, rest) := by
  have his : skipKeyword "is" (.name "IS" :: (nots negated ++ .name "NULL" :: rest)) =
      (true, nots negated ++ .name "NULL" :: rest) := skipKeyword_cons (by decide)
  have hnull : expectKeyword "null" (.name "NULL" :: rest) = .ok rest :=
    expectKeyword_cons (by decide)
  rw [predicate]
  refine bind_eq_ok.mpr ⟨_, h, ?_⟩
  simp only [his, skipKeyword_nots (t := .name "NULL") (by decide), hnull]
  rfl

theorem predicateTail_oneOf (h : items group ts = .ok (es, rest)) :
    predicateTail group e (nots negated ++ .name "IN" :: ts) = .ok (.oneOf negated e es, rest) := by
  have hin : skipKeyword "in" (.name "IN" :: ts) = (true, ts) := skipKeyword_cons (by decide)
  rw [predicateTail, skipKeyword_nots (by decide)]
  simp only [hin, h]
  rfl

theorem predicateTail_between (h : limits group ts = .ok ((low, high), rest)) :
    predicateTail group e (nots negated ++ .name "BETWEEN" :: ts) =
      .ok (.between negated e low high, rest) := by
  have hin : skipKeyword "in" (.name "BETWEEN" :: ts) = (false, .name "BETWEEN" :: ts) :=
    skipKeyword_cons_eq_false (by decide)
  have hbetween : skipKeyword "between" (.name "BETWEEN" :: ts) = (true, ts) :=
    skipKeyword_cons (by decide)
  rw [predicateTail, skipKeyword_nots (by decide)]
  simp only [hin, hbetween, h]
  rfl

theorem limits_eq_ok (hlow : sum group ts = .ok (low, .name "AND" :: more))
    (hhigh : sum group more = .ok (high, rest)) : limits group ts = .ok ((low, high), rest) :=
  bind_eq_ok.mpr ⟨_, hlow, bind_eq_ok.mpr ⟨more, expectKeyword_cons (by decide),
    bind_eq_ok.mpr ⟨_, hhigh, rfl⟩⟩⟩

theorem stops_more {of : Expression → List Token} :
    Stops .sum (es.flatMap (fun e => .comma :: of e) ++ .rightParen :: rest) := by
  cases es <;> exact stops_cons (by decide)

theorem commaSeparated_eq_ok {of : Expression → List Token}
    (h : ∀ e ∈ es, ∀ rest, Stops .sum rest → sum group (of e ++ rest) = .ok (e, rest))
    (hrounds : es.length ≤ rounds) :
    commaSeparated (sum group) rounds
      (es.flatMap (fun e => .comma :: of e) ++ .rightParen :: rest) =
        .ok (es, .rightParen :: rest) := by
  induction es generalizing rounds with
  | nil => cases rounds <;> rfl
  | cons e es ih =>
    cases rounds with
    | zero => simp at hrounds
    | succ rounds =>
      obtain ⟨he, hes⟩ := List.forall_mem_cons.mp h
      have hmore := ih hes (Nat.le_of_succ_le_succ hrounds)
      rw [List.flatMap_cons, List.cons_append, List.cons_append, List.append_assoc]
      exact bind_eq_ok.mpr ⟨_, he _ stops_more, bind_eq_ok.mpr ⟨_, hmore, rfl⟩⟩

theorem length_le_flatMap {of : Expression → List Token} :
    es.length ≤ (es.flatMap fun e => Token.comma :: of e).length := by
  induction es with
  | nil => exact Nat.le_refl 0
  | cons e es ih =>
    rw [List.flatMap_cons, List.length_append, List.length_cons, List.length_cons]
    omega

theorem length_of_mem_more (of : Expression → List Token) (h : e ∈ es) :
    (of e).length ≤ (es.flatMap fun e => Token.comma :: of e).length := by
  obtain ⟨before, after, rfl⟩ := List.append_of_mem h
  rw [List.flatMap_append, List.flatMap_cons, List.length_append, List.length_append,
    List.length_cons]
  omega

theorem items_eq_ok {of : Expression → List Token}
    (h : ∀ e ∈ left :: es, ∀ rest, Stops .sum rest → sum group (of e ++ rest) = .ok (e, rest)) :
    items group (.leftParen :: (of left ++
      (es.flatMap (fun e => .comma :: of e) ++ .rightParen :: rest))) = .ok (left :: es, rest) := by
  obtain ⟨hleft, hes⟩ := List.forall_mem_cons.mp h
  have hrounds : es.length ≤
      (es.flatMap (fun e => .comma :: of e) ++ .rightParen :: rest).length := by
    rw [List.length_append]
    exact Nat.le_add_right_of_le length_le_flatMap
  refine bind_eq_ok.mpr ⟨_, by rw [expect, if_pos rfl], bind_eq_ok.mpr ⟨_, hleft _ stops_more,
    bind_eq_ok.mpr ⟨_, commaSeparated_eq_ok hes hrounds, bind_eq_ok.mpr ⟨rest, ?_, rfl⟩⟩⟩⟩
  rw [expect, if_pos rfl]

end

end Fixtures.Check
