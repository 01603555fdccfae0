import Fixtures.Schema.Basic

namespace Fixtures

open Json

def memberIf {α : Type} (key : String) (encode : α → Json) : Option α → List (String × Json)
  | some a => [(key, encode a)]
  | none => []

def encodeNames (names : List String) : Json :=
  ofList .string names

def Location.encode (l : Location) : Json :=
  .object [("line", ofNat l.line), ("column", ofNat l.column)]

def Primitive.encode (p : Primitive) : Json :=
  .string p.name

def Distribution.encode (d : Distribution) : Json :=
  .string d.name

def Literal.encode : Literal → Json
  | null => .null
  | bool b => .bool b
  | int n => .int n
  | decimal x => if x.isFinite then .float x else .null
  | text s => .string s

def DataType.encode : DataType → Json
  | primitive p => .object [("kind", .string "primitive"), ("name", p.encode)]
  | array item length =>
    .object ([("kind", .string "array"), ("item", item.encode)] ++ memberIf "length" ofNat length)
  | custom name => .object [("kind", .string "custom"), ("name", .string name)]

namespace Constraint

def encodeContent : Constraint → List (String × Json)
  | primaryKey name fields => memberIf "name" .string name ++ [("fields", encodeNames fields)]
  | foreignKey k =>
    memberIf "name" .string k.name ++
      [("fields", encodeNames k.fields), ("target_table", .string k.targetTable),
        ("target_fields", encodeNames k.targetFields)] ++
      memberIf "distribution" Distribution.encode k.distribution
  | unique name fields => memberIf "name" .string name ++ [("fields", encodeNames fields)]
  | check name expression => memberIf "name" .string name ++ [("expression", .string expression)]
  | range low high => memberIf "min" Literal.encode low ++ memberIf "max" Literal.encode high
  | pattern regex => [("regex", .string regex)]
  | enum values => [("values", ofList Literal.encode values)]
  | length low high => memberIf "min" ofNat low ++ memberIf "max" ofNat high

def encode (c : Constraint) : Json :=
  .object (("kind", .string c.kind) :: c.encodeContent)

end Constraint

def Modifiers.encode (m : Modifiers) : Json :=
  .object ([("nullable", .bool m.nullable), ("not_null", .bool m.notNull)] ++
    memberIf "default" Literal.encode m.default)

def Field.encode (f : Field) : Json :=
  .object ([("name", .string f.name), ("data_type", f.dataType.encode),
    ("modifiers", f.modifiers.encode), ("constraints", ofList Constraint.encode f.constraints)] ++
    memberIf "location" Location.encode f.location)

def TypeDecl.encode (t : TypeDecl) : Json :=
  .object ([("name", .string t.name), ("base", t.base.encode),
    ("constraints", ofList Constraint.encode t.constraints)] ++
    memberIf "location" Location.encode t.location)

def FieldOverride.encode (o : FieldOverride) : Json :=
  .object [("strategy", .string o.strategy), ("options", .object o.options)]

def Directive.encode (d : Directive) : Json :=
  .object (memberIf "count" ofNat d.count ++
    [("strategy", .string d.strategy), ("options", .object d.options),
      ("overrides", .object (d.overrides.map fun o => (o.1, o.2.encode)))] ++
    memberIf "location" Location.encode d.location)

def Table.encode (t : Table) : Json :=
  .object ([("name", .string t.name), ("fields", ofList Field.encode t.fields),
    ("constraints", ofList Constraint.encode t.constraints)] ++
    memberIf "directive" Directive.encode t.directive ++
    memberIf "location" Location.encode t.location)

def Schema.encode (s : Schema) : Json :=
  .object ([("name", .string s.name), ("tables", ofList Table.encode s.tables),
    ("types", ofList TypeDecl.encode s.types), ("imports", ofList TypeDecl.encode s.imports)] ++
    memberIf "location" Location.encode s.location)

end Fixtures
