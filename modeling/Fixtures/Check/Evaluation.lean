import Fixtures.Check.Expression
import Fixtures.Value.Basic

namespace Fixtures.Check

/-- Both, where `none` is an unknown truth. -/
def bothHold : Option Bool → Option Bool → Option Bool
  | some false, _ => some false
  | _, some false => some false
  | some true, some true => some true
  | _, _ => none

def eitherHolds : Option Bool → Option Bool → Option Bool
  | some true, _ => some true
  | _, some true => some true
  | some false, some false => some false
  | _, _ => none

end Fixtures.Check

namespace Fixtures.Value

def ofTruth : Option Bool → Value
  | some b => .bool b
  | none => .null

/-- The truth of a value: unknown for null, and false for what is no boolean. -/
def truth : Value → Option Bool
  | bool b => some b
  | null => none
  | _ => some false

def ofInt? : Option Int → Value
  | some n => .int n
  | none => .null

def ofLiteral : Literal → Value
  | .null => .null
  | .bool b => .bool b
  | .int n => .int n
  | .decimal x => .decimal x
  | .text s => .text s

def negated : Value → Value
  | bool b => .bool !b
  | _ => .null

end Fixtures.Value

namespace Fixtures.Check

open Value

/-- An integer of 64 signed bits, unless the number does not fit. -/
def fitted (n : Int) : Option Int :=
  if Binary64.isInt64 n then some n else none

namespace Arithmetic

/-- A quotient goes toward zero. -/
def onInts? : Arithmetic → Int → Int → Option Int
  | add, a, b => fitted (a + b)
  | sub, a, b => fitted (a - b)
  | mul, a, b => fitted (a * b)
  | div, a, b => if b = 0 then none else fitted (a.tdiv b)

def onFloats? : Arithmetic → Float → Float → Option Float
  | add, x, y => some (x + y)
  | sub, x, y => some (x - y)
  | mul, x, y => some (x * y)
  | div, x, y => if y == 0 then none else some (x / y)

/-- Integers stay integers, and null stands for a result that there is none. -/
def apply (op : Arithmetic) (a b : Value) : Value :=
  match a, b with
  | .int m, .int n => ofInt? (op.onInts? m n)
  | a, b =>
    match a.float?, b.float? with
    | some x, some y =>
      match op.onFloats? x y with
      | some z => .decimal z
      | none => .null
    | _, _ => .null

end Arithmetic

namespace Comparison

def accepts : Comparison → Ordering → Bool
  | eq, o => o.isEq
  | ne, o => o.isNe
  | lt, o => o.isLT
  | le, o => o.isLE
  | gt, o => o.isGT
  | ge, o => o.isGE

/-- The truth of a comparison: unknown with a null, and false of values that have no order. -/
def truth (op : Comparison) (a b : Value) : Option Bool :=
  if a.isNull || b.isNull then none else some ((a.compare? b).any op.accepts)

end Comparison

def opposite : Value → Value
  | .int n => ofInt? (fitted (-n))
  | .decimal x => .decimal (-x)
  | _ => .null

/-- Whether a value equals one of the items: unknown if it equals none and one of them is null. -/
def memberTruth (v : Value) : List Value → Option Bool
  | [] => some false
  | item :: items =>
    match Comparison.eq.truth v item with
    | some true => some true
    | some false => memberTruth v items
    | none => if memberTruth v items = some true then some true else none

def turned (negated : Bool) (t : Option Bool) : Option Bool :=
  t.map fun b => b != negated

namespace Expression

mutual

/-- The value of an expression on a row. A field that the row does not have is null. -/
def evaluate (row : String → Option Value) : Expression → Value
  | .literal l => .ofLiteral l
  | .field name => (row name).getD .null
  | .not e => (evaluate row e).negated
  | .neg e => opposite (evaluate row e)
  | .or left right => ofTruth (eitherHolds (evaluate row left).truth (evaluate row right).truth)
  | .and left right => ofTruth (bothHold (evaluate row left).truth (evaluate row right).truth)
  | .compare op left right => ofTruth (op.truth (evaluate row left) (evaluate row right))
  | .arithmetic op left right => op.apply (evaluate row left) (evaluate row right)
  | .oneOf negated e items =>
    let v := evaluate row e
    if v.isNull then .null else ofTruth (turned negated (memberTruth v (evaluateAll row items)))
  | .between negated e low high =>
    let v := evaluate row e
    ofTruth (turned negated (bothHold (Comparison.ge.truth v (evaluate row low))
      (Comparison.le.truth v (evaluate row high))))
  | .isNull negated e => .bool ((evaluate row e).isNull != negated)

def evaluateAll (row : String → Option Value) : List Expression → List Value
  | [] => []
  | e :: es => evaluate row e :: evaluateAll row es

end

def holds (e : Expression) (row : String → Option Value) : Option Bool :=
  (e.evaluate row).truth

end Expression

end Fixtures.Check
