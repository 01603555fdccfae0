import Fixtures.Schema.Basic
import Fixtures.Text.Names

namespace Fixtures.Check

inductive Arithmetic
  | add
  | sub
  | mul
  | div
  deriving DecidableEq, Repr

inductive Comparison
  | eq
  | ne
  | lt
  | le
  | gt
  | ge
  deriving DecidableEq, Repr

inductive Expression
  | literal (l : Literal)
  | field (name : String)
  | not (e : Expression)
  | neg (e : Expression)
  | or (left right : Expression)
  | and (left right : Expression)
  | compare (op : Comparison) (left right : Expression)
  | arithmetic (op : Arithmetic) (left right : Expression)
  | oneOf (negated : Bool) (e : Expression) (items : List Expression)
  | between (negated : Bool) (e low high : Expression)
  | isNull (negated : Bool) (e : Expression)
  deriving Inhabited, Repr

namespace Expression

mutual

/-- Names of fields as often as they occur, from left to right. -/
def mentions : Expression → List String
  | .literal _ => []
  | .field name => [name]
  | .not e => mentions e
  | .neg e => mentions e
  | .or left right => mentions left ++ mentions right
  | .and left right => mentions left ++ mentions right
  | .compare _ left right => mentions left ++ mentions right
  | .arithmetic _ left right => mentions left ++ mentions right
  | .oneOf _ e items => mentions e ++ mentionsIn items
  | .between _ e low high => mentions e ++ mentions low ++ mentions high
  | .isNull _ e => mentions e

def mentionsIn : List Expression → List String
  | [] => []
  | e :: es => mentions e ++ mentionsIn es

end

def fields (e : Expression) : List String :=
  Text.nameSet e.mentions

end Expression

end Fixtures.Check
