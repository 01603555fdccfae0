import Fixtures.Check.Expression
import Fixtures.Check.Token

namespace Fixtures.Check

open Text

abbrev Reader (α : Type) := List Token → Except ParseError (α × List Token)

namespace Reader

def refuse {α : Type} (expected : String) : List Token → Except ParseError α
  | [] => .error .unexpectedEnd
  | t :: _ => .error (.unexpectedToken expected t.described)

def skipKeyword (keyword : String) : List Token → Bool × List Token
  | [] => (false, [])
  | t :: ts => if t.isKeyword keyword then (true, ts) else (false, t :: ts)

def expectKeyword (keyword : String) (ts : List Token) : Except ParseError (List Token) :=
  match skipKeyword keyword ts with
  | (true, rest) => .ok rest
  | (false, _) => refuse keyword ts

def expect (token : Token) : List Token → Except ParseError (List Token)
  | [] => .error .unexpectedEnd
  | t :: ts => if t = token then .ok ts else refuse token.described (t :: ts)

/-- Continues a left operand with operators and right operands as long as there is an operator. Each
round takes a token, so the count of tokens is enough rounds. -/
def chain {α : Type} (operator? : Token → Option (α → α → α)) (operand : Reader α) :
    Nat → α → Reader α
  | 0, left, ts => .ok (left, ts)
  | _ + 1, left, [] => .ok (left, [])
  | rounds + 1, left, t :: ts =>
    match operator? t with
    | none => .ok (left, t :: ts)
    | some combine => do
      let (right, rest) ← operand ts
      chain operator? operand rounds (combine left right) rest

/-- Operands with operators between them, combined from the left. -/
def leftAssociative {α : Type} (operator? : Token → Option (α → α → α)) (operand : Reader α) :
    Reader α := fun ts => do
  let (left, rest) ← operand ts
  chain operator? operand rest.length left rest

def commaSeparated {α : Type} (item : Reader α) : Nat → Reader (List α)
  | 0, ts => .ok ([], ts)
  | rounds + 1, .comma :: ts => do
    let (a, rest) ← item ts
    let (more, rest) ← commaSeparated item rounds rest
    return (a :: more, rest)
  | _ + 1, ts => .ok ([], ts)

end Reader

namespace Expression

open Reader

/-- A number without point that fits 64 signed bits is an integer, any other a decimal. -/
def ofNumeral (digits : String) : Except ParseError Expression :=
  if digits.toList.all Char.isDigit && Binary64.isInt64 (natOfDigits digits.toList) then
    .ok (.literal (.int (natOfDigits digits.toList)))
  else
    match Decimal.read? digits with
    | some x => .ok (.literal (.decimal x))
    | none => .error (.invalidNumber digits)

def ofName (name : String) : Expression :=
  match lowerAscii name with
  | "null" => .literal .null
  | "true" => .literal (.bool true)
  | "false" => .literal (.bool false)
  | _ => .field name

def primary (group : Reader Expression) : Reader Expression
  | [] => .error .unexpectedEnd
  | .number digits :: ts => (ofNumeral digits).map fun e => (e, ts)
  | .text s :: ts => .ok (.literal (.text s), ts)
  | .name s :: ts => .ok (ofName s, ts)
  | .leftParen :: ts => do
    let (e, rest) ← group ts
    let rest ← expect .rightParen rest
    return (e, rest)
  | t :: ts => refuse "value" (t :: ts)

def signed (group : Reader Expression) : Reader Expression
  | .minus :: ts => (signed group ts).map fun r => (.neg r.1, r.2)
  | ts => primary group ts

def productOperator? : Token → Option (Expression → Expression → Expression)
  | .star => some (.arithmetic .mul)
  | .slash => some (.arithmetic .div)
  | _ => none

def product (group : Reader Expression) : Reader Expression :=
  leftAssociative productOperator? (signed group)

def sumOperator? : Token → Option (Expression → Expression → Expression)
  | .plus => some (.arithmetic .add)
  | .minus => some (.arithmetic .sub)
  | _ => none

def sum (group : Reader Expression) : Reader Expression :=
  leftAssociative sumOperator? (product group)

def comparison? : Token → Option Comparison
  | .eq => some .eq
  | .ne => some .ne
  | .lt => some .lt
  | .le => some .le
  | .gt => some .gt
  | .ge => some .ge
  | _ => none

def items (group : Reader Expression) : Reader (List Expression) := fun ts => do
  let rest ← expect .leftParen ts
  let (first, rest) ← sum group rest
  let (more, rest) ← commaSeparated (sum group) rest.length rest
  let rest ← expect .rightParen rest
  return (first :: more, rest)

def limits (group : Reader Expression) : Reader (Expression × Expression) := fun ts => do
  let (low, rest) ← sum group ts
  let rest ← expectKeyword "and" rest
  let (high, rest) ← sum group rest
  return ((low, high), rest)

/-- What follows the left side of a predicate that is no `IS NULL`. -/
def predicateTail (group : Reader Expression) (left : Expression) : Reader Expression := fun ts =>
  match skipKeyword "not" ts with
  | (negated, ts) =>
    match skipKeyword "in" ts, skipKeyword "between" ts with
    | (true, rest), _ => (items group rest).map fun r => (.oneOf negated left r.1, r.2)
    | _, (true, rest) => (limits group rest).map fun r => (.between negated left r.1.1 r.1.2, r.2)
    | _, _ =>
      if negated then refuse "IN or BETWEEN" ts
      else
        match ts with
        | [] => .ok (left, [])
        | t :: rest =>
          match comparison? t with
          | some op => (sum group rest).map fun r => (.compare op left r.1, r.2)
          | none => .ok (left, t :: rest)

def predicate (group : Reader Expression) : Reader Expression := fun ts => do
  let (left, rest) ← sum group ts
  match skipKeyword "is" rest with
  | (true, rest) =>
    let (negated, rest) := skipKeyword "not" rest
    let rest ← expectKeyword "null" rest
    return (.isNull negated left, rest)
  | (false, _) => predicateTail group left rest

def negation (group : Reader Expression) : Reader Expression
  | [] => predicate group []
  | t :: ts =>
    if t.isKeyword "not" then (negation group ts).map fun r => (.not r.1, r.2)
    else predicate group (t :: ts)

def keywordOperator? (keyword : String) (combine : Expression → Expression → Expression)
    (t : Token) : Option (Expression → Expression → Expression) :=
  if t.isKeyword keyword then some combine else none

def conjunction (group : Reader Expression) : Reader Expression :=
  leftAssociative (keywordOperator? "and" .and) (negation group)

def disjunction (group : Reader Expression) : Reader Expression :=
  leftAssociative (keywordOperator? "or" .or) (conjunction group)

/-- An expression with parentheses nested less than `depth` deep. -/
def nested : Nat → Reader Expression
  | 0 => refuse "value"
  | depth + 1 => disjunction (nested depth)

def ofTokens (ts : List Token) : Except ParseError Expression := do
  let (e, rest) ← nested (ts.length + 1) ts
  match rest with
  | [] => return e
  | t :: ts => refuse "end of expression" (t :: ts)

def parse (source : String) : Except ParseError Expression := do
  ofTokens (← Token.ofText source)

end Expression

end Fixtures.Check
