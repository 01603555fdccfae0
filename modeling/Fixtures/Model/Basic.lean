import Fixtures.Check.Parser
import Fixtures.Domain.Basic
import Fixtures.Schema.Dependency
import Fixtures.Typing.Registry

namespace Fixtures.Model

structure Key where
  name : Option String
  fields : List String
  primary : Bool
  deriving DecidableEq, Repr

def nameText : Option String → String
  | some name => " " ++ name
  | none => ""

namespace Key

def label (k : Key) : String :=
  (if k.primary then "primary key" else "unique") ++ nameText k.name ++ "(" ++
    Text.joined ", " k.fields ++ ")"

end Key

structure Check where
  name : Option String
  source : String
  expression : Check.Expression

namespace Check

def label (c : Model.Check) : String :=
  "check" ++ nameText c.name ++ "(" ++ c.source ++ ")"

end Check

structure Override where
  strategy : StrategyKind
  options : OptionMap

structure Directive where
  count : Option Nat := none
  strategy : StrategyKind := .random
  options : OptionMap := []
  overrides : List (String × Override) := []

/-- A field with its domain. The constraints of the field come before those of its type. -/
structure Field where
  name : String
  terminal : Terminal
  typeName : Option String
  constraints : List Constraint
  domain : Domain
  nullable : Bool
  default : Option Value
  location : Option Location

structure Table where
  name : String
  fields : List Field
  primaryKey : Option Key
  uniqueKeys : List Key
  foreignKeys : List ForeignKey
  checks : List Check
  directive : Directive
  location : Option Location

namespace Table

def field? (t : Table) (name : String) : Option Field :=
  t.fields.find? fun f => f.name = name

def fieldIndex? (t : Table) (name : String) : Option Nat :=
  t.fields.findIdx? fun f => f.name = name

def fieldNames (t : Table) : List String :=
  t.fields.map Field.name

def keys (t : Table) : List Key :=
  t.primaryKey.toList ++ t.uniqueKeys

def foreignKeyOf? (t : Table) (field : String) : Option ForeignKey :=
  t.foreignKeys.find? fun k => k.fields.contains field

end Table

end Fixtures.Model

namespace Fixtures

structure Model where
  name : String
  tables : List Model.Table
  types : List (String × ResolvedType)
  warnings : List Diagnostic

namespace Model

def table? (m : Model) (name : String) : Option Table :=
  m.tables.find? fun t => t.name = name

def tableNames (m : Model) : List String :=
  m.tables.map Table.name

def graph (m : Model) : DependencyGraph :=
  .ofReferences (m.tables.map fun t => (t.name, t.foreignKeys.map ForeignKey.targetTable))

end Model

end Fixtures
