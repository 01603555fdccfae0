import Fixtures.Schema.Basic
import Fixtures.Json.Decode
import Fixtures.Numeric.Binary64

namespace Fixtures

open Json

namespace Location

def decode? (j : Json) : Option Location := do
  let ms ← members? ["line", "column"] j
  let line ← required (natWithin? 32) "line" ms
  let column ← required (natWithin? 32) "column" ms
  return ⟨line, column⟩

end Location

def Primitive.decode? : Json → Option Primitive :=
  decodeName Primitive.name Primitive.all

def Distribution.decode? : Json → Option Distribution :=
  decodeName Distribution.name Distribution.all

def StrategyKind.decode? : Json → Option StrategyKind :=
  decodeName StrategyKind.name StrategyKind.all

/-- An integer beyond 64 signed bits is a decimal. -/
def Literal.decode? : Json → Option Literal
  | .null => some .null
  | .bool b => some (.bool b)
  | .int n => if Binary64.isInt64 n then some (.int n) else some (.decimal (Float.ofInt n))
  | .float x => some (.decimal x)
  | .string s => some (.text s)
  | .array _ => none
  | .object _ => none

def DataType.decode? (j : Json) : Option DataType := do
  let (kind, content) ← tagged? j
  match kind with
  | "primitive" =>
    let ms ← members? ["name"] content
    return .primitive (← required Primitive.decode? "name" ms)
  | "array" =>
    let ms ← members? ["item", "length"] content
    let item ← required Primitive.decode? "item" ms
    let length ← optional (natWithin? 32) "length" ms
    return .array item length
  | "custom" =>
    let ms ← members? ["name"] content
    return .custom (← required string? "name" ms)
  | _ => none

namespace Constraint

def names? : Json → Option (List String) :=
  decodeList string?

def decodeKey? (make : Option String → List String → Constraint) (content : Json) :
    Option Constraint := do
  let ms ← members? ["name", "fields"] content
  let name ← optional string? "name" ms
  let fields ← defaulted [] names? "fields" ms
  return make name fields

def decodeForeignKey? (content : Json) : Option Constraint := do
  let ms ← members? ["name", "fields", "target_table", "target_fields", "distribution"] content
  let name ← optional string? "name" ms
  let fields ← defaulted [] names? "fields" ms
  let targetTable ← required string? "target_table" ms
  let targetFields ← required names? "target_fields" ms
  let distribution ← optional Distribution.decode? "distribution" ms
  return .foreignKey ⟨name, fields, targetTable, targetFields, distribution⟩

def decode? (j : Json) : Option Constraint := do
  let (kind, content) ← tagged? j
  match kind with
  | "primary_key" => decodeKey? .primaryKey content
  | "foreign_key" => decodeForeignKey? content
  | "unique" => decodeKey? .unique content
  | "check" =>
    let ms ← members? ["name", "expression"] content
    let name ← optional string? "name" ms
    return .check name (← required string? "expression" ms)
  | "range" =>
    let ms ← members? ["min", "max"] content
    let low ← optional Literal.decode? "min" ms
    let high ← optional Literal.decode? "max" ms
    return .range low high
  | "pattern" =>
    let ms ← members? ["regex"] content
    return .pattern (← required string? "regex" ms)
  | "enum" =>
    let ms ← members? ["values"] content
    return .enum (← required (decodeList Literal.decode?) "values" ms)
  | "length" =>
    let ms ← members? ["min", "max"] content
    let low ← optional (natWithin? 64) "min" ms
    let high ← optional (natWithin? 64) "max" ms
    return .length low high
  | _ => none

end Constraint

def Modifiers.decode? (j : Json) : Option Modifiers := do
  let ms ← members? ["nullable", "not_null", "default"] j
  let nullable ← defaulted false bool? "nullable" ms
  let notNull ← defaulted false bool? "not_null" ms
  let default ← optional Literal.decode? "default" ms
  return ⟨nullable, notNull, default⟩

def Field.decode? (j : Json) : Option Field := do
  let ms ← members? ["name", "data_type", "modifiers", "constraints", "location"] j
  let name ← required string? "name" ms
  let dataType ← required DataType.decode? "data_type" ms
  let modifiers ← defaulted {} Modifiers.decode? "modifiers" ms
  let constraints ← defaulted [] (decodeList Constraint.decode?) "constraints" ms
  let location ← optional Location.decode? "location" ms
  return ⟨name, dataType, modifiers, constraints, location⟩

def TypeDecl.decode? (j : Json) : Option TypeDecl := do
  let ms ← members? ["name", "base", "constraints", "location"] j
  let name ← required string? "name" ms
  let base ← required DataType.decode? "base" ms
  let constraints ← defaulted [] (decodeList Constraint.decode?) "constraints" ms
  let location ← optional Location.decode? "location" ms
  return ⟨name, base, constraints, location⟩

def FieldOverride.decode? (j : Json) : Option FieldOverride := do
  let ms ← members? ["strategy", "options"] j
  let strategy ← required string? "strategy" ms
  let options ← defaulted [] object? "options" ms
  return ⟨strategy, options⟩

def Directive.decode? (j : Json) : Option Directive := do
  let ms ← members? ["count", "strategy", "options", "overrides", "location"] j
  let count ← optional (natWithin? 64) "count" ms
  let strategy ← defaulted StrategyKind.random.name string? "strategy" ms
  let options ← defaulted [] object? "options" ms
  let overrides ← defaulted [] (decodeMap FieldOverride.decode?) "overrides" ms
  let location ← optional Location.decode? "location" ms
  return ⟨count, strategy, options, overrides, location⟩

def Table.decode? (j : Json) : Option Table := do
  let ms ← members? ["name", "fields", "constraints", "directive", "location"] j
  let name ← required string? "name" ms
  let fields ← defaulted [] (decodeList Field.decode?) "fields" ms
  let constraints ← defaulted [] (decodeList Constraint.decode?) "constraints" ms
  let directive ← optional Directive.decode? "directive" ms
  let location ← optional Location.decode? "location" ms
  return ⟨name, fields, constraints, directive, location⟩

def Schema.decode? (j : Json) : Option Schema := do
  let ms ← members? ["name", "tables", "types", "imports", "location"] j
  let name ← required string? "name" ms
  let tables ← defaulted [] (decodeList Table.decode?) "tables" ms
  let types ← defaulted [] (decodeList TypeDecl.decode?) "types" ms
  let imports ← defaulted [] (decodeList TypeDecl.decode?) "imports" ms
  let location ← optional Location.decode? "location" ms
  return ⟨name, tables, types, imports, location⟩

end Fixtures
