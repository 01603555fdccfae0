import Fixtures.Check.Expression
import Fixtures.Check.Token
import Fixtures.Numeric.Binary64

namespace Fixtures.Check

inductive Level
  | disjunction
  | conjunction
  | negation
  | predicate
  | sum
  | product
  | signed
  | primary
  deriving DecidableEq

namespace Level

def all : List Level :=
  [disjunction, conjunction, negation, predicate, sum, product, signed, primary]

def rank : Level → Nat
  | disjunction => 0
  | conjunction => 1
  | negation => 2
  | predicate => 3
  | sum => 4
  | product => 5
  | signed => 6
  | primary => 7

def tighter : Level → Level
  | disjunction => conjunction
  | conjunction => negation
  | negation => predicate
  | predicate => sum
  | sum => product
  | product => signed
  | signed | primary => primary

end Level

structure Lexeme where
  token : Token
  spelling : String

namespace Lexeme

/-- A text between quotes, where quotes that belong to it are written twice. -/
def quotedWith (quote : Char) (s : String) : String :=
  String.ofList (quote :: s.toList.flatMap (fun c => if c = quote then [c, c] else [c]) ++ [quote])

def keyword (word : String) : Lexeme := ⟨.name word, word⟩
def field (name : String) : Lexeme := ⟨.name name, quotedWith '"' name⟩
def text (s : String) : Lexeme := ⟨.text s, quotedWith '\'' s⟩
def numeral (n : Nat) : Lexeme := ⟨.number (toString n), toString n⟩
def leftParen : Lexeme := ⟨.leftParen, "("⟩
def rightParen : Lexeme := ⟨.rightParen, ")"⟩
def comma : Lexeme := ⟨.comma, ","⟩
def minus : Lexeme := ⟨.minus, "-"⟩

def printed (ls : List Lexeme) : String :=
  Text.joined " " (ls.map spelling)

end Lexeme

namespace Arithmetic

def level : Arithmetic → Level
  | add | sub => .sum
  | mul | div => .product

def lexeme : Arithmetic → Lexeme
  | add => ⟨.plus, "+"⟩
  | sub => .minus
  | mul => ⟨.star, "*"⟩
  | div => ⟨.slash, "/"⟩

end Arithmetic

def Comparison.lexeme : Comparison → Lexeme
  | eq => ⟨.eq, "="⟩
  | ne => ⟨.ne, "!="⟩
  | lt => ⟨.lt, "<"⟩
  | le => ⟨.le, "<="⟩
  | gt => ⟨.gt, ">"⟩
  | ge => ⟨.ge, ">="⟩

namespace Expression

def level : Expression → Level
  | .literal _ | .field _ => .primary
  | .neg _ => .signed
  | .arithmetic op _ _ => op.level
  | .compare .. | .oneOf .. | .between .. | .isNull .. => .predicate
  | .not _ => .negation
  | .and _ _ => .conjunction
  | .or _ _ => .disjunction

def enclosed (place own : Level) (operand : List Lexeme) : List Lexeme :=
  if own.rank < place.rank then .leftParen :: operand ++ [.rightParen] else operand

open Lexeme in
def literalLexeme : Literal → Lexeme
  | .null => keyword "NULL"
  | .bool true => keyword "TRUE"
  | .bool false => keyword "FALSE"
  | .int n => numeral n.toNat
  | .decimal x => ⟨.number (Decimal.plain x), Decimal.plain x⟩
  | .text s => Lexeme.text s

open Lexeme in
def optionalNot (negated : Bool) : List Lexeme :=
  if negated then [keyword "NOT"] else []

open Lexeme in
mutual

def lexemes : Expression → List Lexeme
  | .literal l => [literalLexeme l]
  | .field name => [Lexeme.field name]
  | .not e => keyword "NOT" :: enclosed .negation e.level (lexemes e)
  | .neg e => minus :: enclosed .signed e.level (lexemes e)
  | .or left right =>
    enclosed .disjunction left.level (lexemes left) ++ keyword "OR" ::
      enclosed .conjunction right.level (lexemes right)
  | .and left right =>
    enclosed .conjunction left.level (lexemes left) ++ keyword "AND" ::
      enclosed .negation right.level (lexemes right)
  | .compare op left right =>
    enclosed .sum left.level (lexemes left) ++ op.lexeme ::
      enclosed .sum right.level (lexemes right)
  | .arithmetic op left right =>
    enclosed op.level left.level (lexemes left) ++ op.lexeme ::
      enclosed op.level.tighter right.level (lexemes right)
  | .oneOf negated e items =>
    enclosed .sum e.level (lexemes e) ++ optionalNot negated ++ keyword "IN" :: leftParen ::
      [comma].intercalate (lexemesOf items) ++ [rightParen]
  | .between negated e low high =>
    enclosed .sum e.level (lexemes e) ++ optionalNot negated ++ keyword "BETWEEN" ::
      enclosed .sum low.level (lexemes low) ++ keyword "AND" ::
        enclosed .sum high.level (lexemes high)
  | .isNull negated e =>
    enclosed .sum e.level (lexemes e) ++ keyword "IS" :: optionalNot negated ++ [keyword "NULL"]

def lexemesOf : List Expression → List (List Lexeme)
  | [] => []
  | e :: es => enclosed .sum e.level (lexemes e) :: lexemesOf es

end

def print (e : Expression) : String :=
  Lexeme.printed e.lexemes

def keywords : List String :=
  ["or", "and", "not", "is", "in", "between", "null", "true", "false"]

def isPrintableLiteral : Literal → Bool
  | .null | .bool _ | .text _ => true
  | .int n => 0 ≤ n && n ≤ Binary64.maxInt64
  | .decimal _ => false

mutual

/-- Numbers are integers of 64 bits without sign, fields are not named like keywords, and something
is in every list. -/
def isPrintable : Expression → Bool
  | .literal l => isPrintableLiteral l
  | .field name => Text.lowerAscii name ∉ keywords
  | .not e => isPrintable e
  | .neg e => isPrintable e
  | .or left right => isPrintable left && isPrintable right
  | .and left right => isPrintable left && isPrintable right
  | .compare _ left right => isPrintable left && isPrintable right
  | .arithmetic _ left right => isPrintable left && isPrintable right
  | .oneOf _ e items => isPrintable e && !items.isEmpty && arePrintable items
  | .between _ e low high => isPrintable e && isPrintable low && isPrintable high
  | .isNull _ e => isPrintable e

def arePrintable : List Expression → Bool
  | [] => true
  | e :: es => isPrintable e && arePrintable es

end

theorem lexemesOf_eq_map (es : List Expression) :
    lexemesOf es = es.map fun e => enclosed .sum e.level e.lexemes := by
  induction es with
  | nil => rw [lexemesOf, List.map_nil]
  | cons e es ih => rw [lexemesOf, ih, List.map_cons]

theorem arePrintable_eq_all (es : List Expression) : arePrintable es = es.all isPrintable := by
  induction es with
  | nil => rw [arePrintable, List.all_nil]
  | cons e es ih => rw [arePrintable, ih, List.all_cons]

variable {place : Level} {e left right low high : Expression} {es : List Expression}
    {negated : Bool}

def tokens (e : Expression) : List Token :=
  e.lexemes.map Lexeme.token

/-- Tokens of an operand, with parentheses around them where its place requires that. -/
def within (place : Level) (e : Expression) : List Token :=
  (enclosed place e.level e.lexemes).map Lexeme.token

def nots (negated : Bool) : List Token :=
  (optionalNot negated).map Lexeme.token

theorem within_of_lt (h : e.level.rank < place.rank) :
    e.within place = .leftParen :: (e.tokens ++ [.rightParen]) := by
  rw [within, enclosed, if_pos h, List.cons_append, List.map_cons, List.map_append]
  rfl

theorem within_of_le (h : place.rank ≤ e.level.rank) : e.within place = e.tokens := by
  rw [within, enclosed, if_neg (Nat.not_lt.mpr h), tokens]

theorem tokens_not : (not e).tokens = .name "NOT" :: e.within .negation :=
  rfl

theorem tokens_neg : (neg e).tokens = .minus :: e.within .signed :=
  rfl

theorem tokens_or :
    (or left right).tokens = left.within .disjunction ++
      .name "OR" :: right.within .conjunction := by
  rw [tokens, lexemes, List.map_append]
  rfl

theorem tokens_and :
    (and left right).tokens = left.within .conjunction ++
      .name "AND" :: right.within .negation := by
  rw [tokens, lexemes, List.map_append]
  rfl

theorem tokens_compare {op : Comparison} :
    (compare op left right).tokens =
      left.within .sum ++ op.lexeme.token :: right.within .sum := by
  rw [tokens, lexemes, List.map_append]
  rfl

theorem tokens_arithmetic {op : Arithmetic} :
    (arithmetic op left right).tokens =
      left.within op.level ++ op.lexeme.token :: right.within op.level.tighter := by
  rw [tokens, lexemes, List.map_append]
  rfl

theorem tokens_between :
    (between negated e low high).tokens =
      e.within .sum ++ (nots negated ++ .name "BETWEEN" :: (low.within .sum ++
        .name "AND" :: high.within .sum)) := by
  rw [tokens, lexemes]
  simp only [List.map_append, List.append_assoc]
  rfl

theorem tokens_isNull :
    (isNull negated e).tokens = e.within .sum ++
      .name "IS" :: (nots negated ++ [.name "NULL"]) := by
  rw [tokens, lexemes]
  simp only [List.map_append, List.append_assoc]
  rfl

theorem map_token_intercalate :
    ([Lexeme.comma].intercalate (lexemesOf (e :: es))).map Lexeme.token =
      e.within .sum ++ es.flatMap fun item => .comma :: item.within .sum := by
  induction es generalizing e with
  | nil =>
    rw [lexemesOf, lexemesOf, List.intercalate_singleton, List.flatMap_nil, List.append_nil]
    rfl
  | cons item es ih =>
    rw [lexemesOf, lexemesOf, List.intercalate_cons_cons, ← lexemesOf, List.map_append, ih,
      List.map_append, List.append_assoc]
    rfl

theorem tokens_oneOf :
    (oneOf negated e (left :: es)).tokens =
      e.within .sum ++ (nots negated ++ .name "IN" :: .leftParen :: (left.within .sum ++
        (es.flatMap (fun item => .comma :: item.within .sum) ++ [.rightParen]))) := by
  rw [tokens, lexemes]
  simp only [List.map_append, List.map_cons, map_token_intercalate, List.append_assoc,
    List.cons_append]
  rfl

/-- Induction over expressions and the items of their lists. -/
@[elab_as_elim]
theorem induction {P : Expression → Prop} (literal : ∀ l, P (.literal l))
    (field : ∀ name, P (.field name)) (not : ∀ e, P e → P (.not e)) (neg : ∀ e, P e → P (.neg e))
    (or : ∀ left right, P left → P right → P (.or left right))
    (and : ∀ left right, P left → P right → P (.and left right))
    (compare : ∀ op left right, P left → P right → P (.compare op left right))
    (arithmetic : ∀ op left right, P left → P right → P (.arithmetic op left right))
    (oneOf : ∀ negated e items, P e → (∀ item ∈ items, P item) → P (.oneOf negated e items))
    (between : ∀ negated e low high, P e → P low → P high → P (.between negated e low high))
    (isNull : ∀ negated e, P e → P (.isNull negated e)) (e : Expression) : P e :=
  @Expression.rec P (fun es => ∀ e ∈ es, P e) literal field not neg or and compare arithmetic oneOf
    between isNull (List.forall_mem_nil P) (fun _ _ he hes => List.forall_mem_cons.mpr ⟨he, hes⟩) e

end Expression

end Fixtures.Check
