import Fixtures.Json.Basic
import Fixtures.Text.CharClass

namespace Fixtures

structure Location where
  line : Nat
  column : Nat
  deriving DecidableEq, Repr

inductive Primitive
  | integer
  | decimal
  | string
  | boolean
  | date
  | timestamp
  | binary
  | uuid
  | json
  deriving DecidableEq, Repr

/-- The element of a list whose name is a text, compared without case and outer blanks. -/
def nameIn? {α : Type} (name : α → String) (all : List α) (text : String) : Option α :=
  let text := Text.lowerAscii (Text.trimmed text)
  all.find? fun a => name a = text

namespace Primitive

def all : List Primitive :=
  [integer, decimal, string, boolean, date, timestamp, binary, uuid, json]

def name : Primitive → String
  | integer => "integer"
  | decimal => "decimal"
  | string => "string"
  | boolean => "boolean"
  | date => "date"
  | timestamp => "timestamp"
  | binary => "binary"
  | uuid => "uuid"
  | json => "json"

def ofName? : String → Option Primitive :=
  nameIn? name all

def isNumeric : Primitive → Bool
  | integer | decimal => true
  | _ => false

def isTemporal : Primitive → Bool
  | date | timestamp => true
  | _ => false

end Primitive

/-- A reference to a type: built in, an array of a built-in type, or custom by its name. -/
inductive DataType
  | primitive (p : Primitive)
  | array (item : Primitive) (length : Option Nat)
  | custom (name : String)
  deriving DecidableEq, Repr

inductive Literal
  | null
  | bool (b : Bool)
  | int (n : Int)
  | decimal (x : Float)
  | text (s : String)
  deriving DecidableEq, Repr

/-- How the rows that foreign keys point to are spread over a table. -/
inductive Distribution
  | uniform
  | zipf
  | normal
  deriving DecidableEq, Repr

namespace Distribution

def all : List Distribution := [uniform, zipf, normal]

def name : Distribution → String
  | uniform => "uniform"
  | zipf => "zipf"
  | normal => "normal"

def ofName? : String → Option Distribution :=
  nameIn? name all

end Distribution

/-- Fields of a table whose values are those of some row of the target table. -/
structure ForeignKey where
  name : Option String
  fields : List String
  targetTable : String
  targetFields : List String
  distribution : Option Distribution
  deriving DecidableEq, Repr

inductive Constraint
  | primaryKey (name : Option String) (fields : List String)
  | foreignKey (key : ForeignKey)
  | unique (name : Option String) (fields : List String)
  | check (name : Option String) (expression : String)
  | range (min max : Option Literal)
  | pattern (regex : String)
  | enum (values : List Literal)
  | length (min max : Option Nat)
  deriving DecidableEq, Repr

namespace Constraint

def kind : Constraint → String
  | primaryKey .. => "primary_key"
  | foreignKey .. => "foreign_key"
  | unique .. => "unique"
  | check .. => "check"
  | range .. => "range"
  | pattern .. => "pattern"
  | enum .. => "enum"
  | length .. => "length"

def isOnValue : Constraint → Bool
  | range .. | pattern .. | enum .. | length .. => true
  | _ => false

end Constraint

/-- Whether a field may be null, and what it is by default. -/
structure Modifiers where
  nullable : Bool := false
  notNull : Bool := false
  default : Option Literal := none
  deriving DecidableEq, Repr

structure Field where
  name : String
  dataType : DataType
  modifiers : Modifiers := {}
  constraints : List Constraint := []
  location : Option Location := none
  deriving DecidableEq, Repr

/-- A custom type: a name for another type under further constraints. -/
structure TypeDecl where
  name : String
  base : DataType
  constraints : List Constraint := []
  location : Option Location := none
  deriving DecidableEq, Repr

inductive StrategyKind
  | faker
  | random
  | sequential
  | pattern
  | default
  deriving DecidableEq, Repr

namespace StrategyKind

def all : List StrategyKind := [faker, random, sequential, pattern, default]

def name : StrategyKind → String
  | faker => "faker"
  | random => "random"
  | sequential => "sequential"
  | pattern => "pattern"
  | default => "default"

def ofName? : String → Option StrategyKind :=
  nameIn? name all

end StrategyKind

/-- Options by their names, in the order of the names. -/
abbrev OptionMap := List (String × Json)

structure FieldOverride where
  strategy : String
  options : OptionMap := []

/-- What is to be generated for a table: how many rows, by which strategy, and the fields with a
strategy of their own in the order of their names. -/
structure Directive where
  count : Option Nat := none
  strategy : String := StrategyKind.random.name
  options : OptionMap := []
  overrides : List (String × FieldOverride) := []
  location : Option Location := none

structure Table where
  name : String
  fields : List Field := []
  constraints : List Constraint := []
  directive : Option Directive := none
  location : Option Location := none

namespace Table

def field? (t : Table) (name : String) : Option Field :=
  t.fields.find? fun f => f.name = name

/-- Constraints of the table, then those of its fields with the field. -/
def allConstraints (t : Table) : List (Option Field × Constraint) :=
  t.constraints.map (fun c => (none, c)) ++
    t.fields.flatMap fun f => f.constraints.map fun c => (some f, c)

end Table

structure Schema where
  name : String
  tables : List Table := []
  types : List TypeDecl := []
  imports : List TypeDecl := []
  location : Option Location := none

namespace Schema

def table? (s : Schema) (name : String) : Option Table :=
  s.tables.find? fun t => t.name = name

def typeDecls (s : Schema) : List TypeDecl :=
  s.types ++ s.imports

end Schema

end Fixtures
