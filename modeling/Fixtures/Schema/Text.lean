import Fixtures.Schema.Basic
import Fixtures.Numeric.Decimal

namespace Fixtures

open Text (joined)

def Location.text (l : Location) : String :=
  toString l.line ++ ":" ++ toString l.column

def arrayText (item : Primitive) (length : Option Nat) : String :=
  match length with
  | some n => "array<" ++ item.name ++ ", " ++ toString n ++ ">"
  | none => "array<" ++ item.name ++ ">"

def DataType.text : DataType → String
  | primitive p => p.name
  | array item length => arrayText item length
  | custom name => name

namespace Literal

def written : Literal → String
  | null => "null"
  | bool b => if b then "true" else "false"
  | int n => toString n
  | decimal x => Decimal.plain x
  | text s => "'" ++ s ++ "'"

def float? : Literal → Option Float
  | int n => some (Float.ofInt n)
  | decimal x => some x
  | _ => none

end Literal

namespace Constraint

def boundText {α : Type} (render : α → String) : Option α → String
  | some a => render a
  | none => "*"

def label : Constraint → String
  | primaryKey _ fields => "primary key(" ++ joined ", " fields ++ ")"
  | foreignKey k =>
    "foreign key(" ++ joined ", " k.fields ++ ") references " ++ k.targetTable ++ "(" ++
      joined ", " k.targetFields ++ ")"
  | unique _ fields => "unique(" ++ joined ", " fields ++ ")"
  | check _ expression => "check(" ++ expression ++ ")"
  | range low high =>
    "range(" ++ boundText Literal.written low ++ ", " ++ boundText Literal.written high ++ ")"
  | pattern regex => "pattern('" ++ regex ++ "')"
  | enum values => "enum(" ++ joined ", " (values.map Literal.written) ++ ")"
  | length low high => "length(" ++ boundText toString low ++ ", " ++ boundText toString high ++ ")"

end Constraint

end Fixtures
