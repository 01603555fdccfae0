import Fixtures.Contract.Basic
import Fixtures.Schema.Basic

namespace Fixtures.Contract

def names : Contract := .list .string

def primitiveWords : Contract :=
  described "Built-in primitive types." (.word (Primitive.all.map Primitive.name))

def primitive : Contract := .named "PrimitiveType" primitiveWords

def distributionWords : Contract :=
  described "Sampling bias applied when resolving a foreign key."
    (.word (Distribution.all.map Distribution.name))

def distribution : Contract := .named "Distribution" distributionWords

def locationRecord : Contract :=
  described "Position of a declaration in the schema source."
    (.record [("column", .integer .uint32), ("line", .integer .uint32)] ["column", "line"])

def location : Contract := .named "SourceLocation" locationRecord

def literalOptions : Contract :=
  described "Literal value as written in the source."
    (.any [.null, .boolean, .integer .int64, .number .double, .string])

def literal : Contract := .named "Literal" literalOptions

def kinded (kind : String) (members : List (String × Contract)) (required : List String) :
    Contract :=
  .record (("kind", .word [kind]) :: members) required

def dataTypeOptions : Contract :=
  described "Type reference of a field or custom type."
    (.one [
      kinded "primitive" [("name", primitive)] ["kind", "name"],
      kinded "array" [("item", primitive), ("length", .integerOrNull .uint32)] ["item", "kind"],
      kinded "custom" [("name", .string)] ["kind", "name"]])

def dataType : Contract := .named "DataType" dataTypeOptions

def fieldNames : String × Contract := ("fields", withDefault (.array []) names)

def constraintOptions : Contract :=
  described "Constraint attached to a table, a field, or a custom type."
    (.one [
      described
        ("Primary key definition. An empty field list on an inline constraint means the owning " ++
          "field.")
        (kinded "primary_key" [fieldNames, ("name", .stringOrNull)] ["kind"]),
      described "Foreign key definition."
        (kinded "foreign_key"
          [("distribution",
              described "Sampling bias used when resolving this key." (orNull distribution)),
            fieldNames, ("name", .stringOrNull), ("target_fields", names),
            ("target_table", .string)]
          ["kind", "target_fields", "target_table"]),
      described "Unique constraint definition."
        (kinded "unique" [fieldNames, ("name", .stringOrNull)] ["kind"]),
      described "Boolean check expression over the table's fields."
        (kinded "check" [("expression", .string), ("name", .stringOrNull)]
          ["expression", "kind"]),
      described "Inclusive bounds for numeric and temporal values."
        (kinded "range" [("max", orNull literal), ("min", orNull literal)] ["kind"]),
      kinded "pattern" [("regex", .string)] ["kind", "regex"],
      kinded "enum" [("values", .list literal)] ["kind", "values"],
      described "Inclusive length bounds for strings, binary values and arrays."
        (kinded "length" [("max", .integerOrNull .uint64), ("min", .integerOrNull .uint64)]
          ["kind"])])

def constraint : Contract := .named "Constraint" constraintOptions

def constraints : String × Contract :=
  ("constraints", withDefault (.array []) (.list constraint))

def located : String × Contract := ("location", orNull location)

def modifiersRecord : Contract :=
  described "Nullability and default modifiers of a field."
    (.record
      [("default", orNull literal), ("not_null", withDefault (.bool false) .boolean),
        ("nullable",
          described "Explicit `null` modifier." (withDefault (.bool false) .boolean))]
      [])

def modifiers : Contract := .named "FieldModifiers" modifiersRecord

def fieldRecord : Contract :=
  described "Field definition."
    (.record
      [("constraints",
          described "Inline constraints such as `with range(1, 10)` or `primary key`."
            (withDefault (.array []) (.list constraint))),
        ("data_type", dataType), located,
        ("modifiers",
          withDefault (.object [("not_null", .bool false), ("nullable", .bool false)])
            (.all [modifiers])),
        ("name", .string)]
      ["data_type", "name"])

def field : Contract := .named "Field" fieldRecord

def options : String × Contract := ("options", withDefault (.object []) .anyObject)

def fieldOverrideRecord : Contract :=
  described "Strategy override for a single field."
    (.record [options, ("strategy", .string)] ["strategy"])

def fieldOverride : Contract := .named "FieldOverride" fieldOverrideRecord

def directiveRecord : Contract :=
  described "Per-table `generate \x7b ... \x7d` block."
    (.record
      [("count",
          described "Record count; the engine default applies when absent."
            (.integerOrNull .uint64)),
        located, options,
        ("overrides",
          described "Field name to strategy override."
            (withDefault (.object []) (.map fieldOverride))),
        ("strategy", withDefault (.string StrategyKind.random.name) .string)]
      [])

def directive : Contract := .named "GenerationDirective" directiveRecord

def tableRecord : Contract :=
  described "Table definition with fields, constraints and an optional directive."
    (.record
      [constraints, ("directive", orNull directive),
        ("fields", withDefault (.array []) (.list field)), located, ("name", .string)]
      ["name"])

def table : Contract := .named "Table" tableRecord

def typeDeclRecord : Contract :=
  described "Custom type declaration: `type Age = integer with range(18, 100)`."
    (.record [("base", dataType), constraints, located, ("name", .string)] ["base", "name"])

def typeDecl : Contract := .named "TypeDecl" typeDeclRecord

def schemaRecord : Contract :=
  described "Root of a parsed TDG schema."
    (.record
      [("imports",
          described "Custom types brought in from other schemas."
            (withDefault (.array []) (.list typeDecl))),
        located, ("name", .string), ("tables", withDefault (.array []) (.list table)),
        ("types",
          described "Custom types declared in this schema."
            (withDefault (.array []) (.list typeDecl)))]
      ["name"])

def definitions : List (String × Contract) :=
  [("Constraint", constraintOptions), ("DataType", dataTypeOptions),
    ("Distribution", distributionWords), ("Field", fieldRecord),
    ("FieldModifiers", modifiersRecord), ("FieldOverride", fieldOverrideRecord),
    ("GenerationDirective", directiveRecord), ("Literal", literalOptions),
    ("PrimitiveType", primitiveWords), ("SourceLocation", locationRecord), ("Table", tableRecord),
    ("TypeDecl", typeDeclRecord)]

def schemaDocument : Json :=
  Json.ofMembers
    (schemaRecord.toMembers ++
      [("$schema", .string "http://json-schema.org/draft-07/schema#"),
        ("title", .string "Schema"), ("definitions", Json.ofMembers (toProperties definitions))])

end Fixtures.Contract
