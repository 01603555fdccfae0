import Fixtures.Check.Tree
import Fixtures.Model.Basic
import Fixtures.Schema.Encode

namespace Fixtures

open Json

def Timestamp.encode (t : Timestamp) : Json :=
  .string (Calendar.timestampText t)

def Bounds.encode {α : Type} (render : α → Json) (b : Bounds α) : Json :=
  .object [("min", ofOption render b.min), ("max", ofOption render b.max)]

def Domain.encode (d : Domain) : Json :=
  .object [("terminal", .string d.terminal.text), ("numeric", d.numeric.encode ofFloatText),
    ("temporal", d.temporal.encode Timestamp.encode), ("length", d.length.encode ofNat),
    ("patterns", encodeNames d.patterns), ("allowed", ofOption (ofList Value.encode) d.allowed)]

def ResolvedType.encode (r : ResolvedType) : Json :=
  .object [("terminal", .string r.terminal.text), ("element", r.terminal.element.encode),
    ("array", .bool r.terminal.isArray), ("constraints", ofList Constraint.encode r.constraints),
    ("chain", encodeNames r.chain)]

def ForeignKey.encode (k : ForeignKey) : Json :=
  .object [("name", ofOption .string k.name), ("fields", encodeNames k.fields),
    ("target_table", .string k.targetTable), ("target_fields", encodeNames k.targetFields),
    ("distribution", ofOption Distribution.encode k.distribution)]

namespace Model

def Key.encode (k : Key) : Json :=
  .object [("label", .string k.label), ("fields", encodeNames k.fields),
    ("primary", .bool k.primary), ("name", ofOption .string k.name)]

def Check.encode (c : Model.Check) : Json :=
  .object [("label", .string c.label), ("tree", c.expression.encode)]

def Override.encode (o : Override) : Json :=
  .object [("strategy", .string o.strategy.name), ("options", .object o.options)]

def Directive.encode (d : Directive) : Json :=
  .object [("count", ofOption ofNat d.count), ("strategy", .string d.strategy.name),
    ("options", .object d.options),
    ("overrides", .object (d.overrides.map fun o => (o.1, o.2.encode)))]

/-- A field with its position and the table that its foreign key points to. -/
def Field.encode (t : Table) (f : Field) : Json :=
  .object [("name", .string f.name), ("type", .string f.terminal.text),
    ("type_name", ofOption .string f.typeName),
    ("constraints", encodeNames (f.constraints.map Constraint.label)), ("domain", f.domain.encode),
    ("nullable", .bool f.nullable), ("default", ofOption Value.encode f.default),
    ("location", ofOption Location.encode f.location),
    ("index", ofOption ofNat (t.fieldIndex? f.name)),
    ("foreign_key", ofOption .string ((t.foreignKeyOf? f.name).map ForeignKey.targetTable))]

def Table.encode (t : Table) : Json :=
  .object [("name", .string t.name), ("fields", ofList (Field.encode t) t.fields),
    ("primary_key", ofOption Key.encode t.primaryKey), ("keys", ofList Key.encode t.keys),
    ("foreign_keys", ofList ForeignKey.encode t.foreignKeys),
    ("checks", ofList Check.encode t.checks), ("directive", t.directive.encode),
    ("location", ofOption Location.encode t.location)]

end Model

end Fixtures
