import Fixtures.Check.Expression
import Fixtures.Value.Tagged

namespace Fixtures.Check

namespace Comparison

def name : Comparison → String
  | eq => "eq"
  | ne => "noteq"
  | lt => "lt"
  | le => "lteq"
  | gt => "gt"
  | ge => "gteq"

end Comparison

namespace Arithmetic

def name : Arithmetic → String
  | add => "add"
  | sub => "sub"
  | mul => "mul"
  | div => "div"

end Arithmetic

namespace Expression

def node (kind : String) (parts : List Json) : Json :=
  .array (.string kind :: parts)

def encodeLiteral : Literal → Json
  | .decimal x => node "decimal" [.ofFloatText x]
  | .null => node "literal" [.null]
  | .bool b => node "literal" [.bool b]
  | .int n => node "literal" [.int n]
  | .text s => node "literal" [.string s]

mutual

def encode : Expression → Json
  | .literal l => encodeLiteral l
  | .field name => node "field" [.string name]
  | .not e => node "not" [encode e]
  | .neg e => node "neg" [encode e]
  | .or left right => node "or" [encode left, encode right]
  | .and left right => node "and" [encode left, encode right]
  | .compare op left right => node op.name [encode left, encode right]
  | .arithmetic op left right => node op.name [encode left, encode right]
  | .oneOf negated e items => node "in" [.bool negated, encode e, .array (encodeAll items)]
  | .between negated e low high => node "between" [.bool negated, encode e, encode low, encode high]
  | .isNull negated e => node "isnull" [.bool negated, encode e]

def encodeAll : List Expression → List Json
  | [] => []
  | e :: es => encode e :: encodeAll es

end

end Expression

end Fixtures.Check
