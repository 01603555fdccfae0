import Fixtures.Model.Analysis.Field
import Fixtures.Model.Analysis.Key

namespace Fixtures.Analysis

def withKey (key : Option Model.Key) (f : Model.Field) : Model.Field :=
  if key.any fun k => k.fields.contains f.name then { f with nullable := false } else f

def reviewTable (resolve : Resolution) (known : SymbolTable) (s : Schema) (t : Table) :
    Reviewed (Option Model.Table) :=
  let fields := (firstOfEach Field.name [] t.fields).map (reviewField resolve t)
  let keys := reviewKeys resolve known s t
  let checks := reviewChecks t
  let directive := reviewDirective t
  let errors :=
    fields.flatMap Prod.snd ++ keys.errors ++ checks.flatMap Prod.snd ++ directive.2
  if errors.isEmpty then
    let table : Model.Table :=
      { name := t.name
        fields := (fields.filterMap Prod.fst).map (withKey keys.primaryKey)
        primaryKey := keys.primaryKey
        uniqueKeys := keys.uniqueKeys
        foreignKeys := keys.foreignKeys
        checks := checks.filterMap Prod.fst
        directive := directive.1
        location := t.location }
    (some table, [])
  else (none, errors)

def keyWarning? (t : Model.Table) : Option Diagnostic :=
  if t.keys.isEmpty then
    some <| .located t.location <| .inTable t.name <| .warning .missingKey
      ("table '" ++ t.name ++
        "' has no primary key or unique constraint; rows are identified by position")
  else none

/-- Warnings about a type that says nothing new or is not used. -/
def typeWarnings (used : List String) (d : TypeDecl) : List Diagnostic :=
  let redundant :=
    if d.constraints.isEmpty then
      [Diagnostic.warning .redundantType
        ("type '" ++ d.name ++ "' adds no constraint to " ++ d.base.text)]
    else []
  let unused :=
    if d.name ∈ used then []
    else [Diagnostic.warning .unusedType ("type '" ++ d.name ++ "' is never used")]
  (redundant ++ unused).map (.located d.location)

def usedTypes (types : TypeReview) (definitions : List TypeDecl) (tables : List Table) :
    List String :=
  let resolved := definitions.filter fun d => types.types.any fun t => t.1 = d.name
  resolved.filterMap (fun d => customName? d.base) ++
    tables.flatMap fun t =>
      (firstOfEach Field.name [] t.fields).filterMap fun f => customName? f.dataType

end Fixtures.Analysis

namespace Fixtures

open Analysis

def Model.ofSchema (s : Schema) : Except Diagnostics Model :=
  let registry := registry s
  let resolve : Resolution := fun t => (registry.1.resolve t).1
  let symbols := symbols s
  let types := reviewTypes resolve registry.1.definitions
  let declared := firstOfEach Fixtures.Table.name [] s.tables
  let reviewed := declared.map (reviewTable resolve symbols.1 s)
  let tables := reviewed.filterMap Prod.fst
  let errors := registry.2 ++ symbols.2 ++ types.errors ++ reviewed.flatMap Prod.snd
  let used := usedTypes types registry.1.definitions declared
  let warnings := tables.filterMap keyWarning? ++ s.typeDecls.flatMap (typeWarnings used)
  if errors.isEmpty then .ok ⟨s.name, tables, types.types, warnings⟩
  else .error ⟨errors, warnings⟩

/-- The error about foreign keys that lead back to the first table of a cycle. -/
def Model.cycleError (m : Model) (e : SchemaError) : Diagnostic :=
  let d := Diagnostic.error .circularDependency e.message
  match e with
  | .circularDependency (first :: _) =>
    (d.inTable first).located ((m.table? first).bind Table.location)
  | _ => d

/-- The model of a schema with the order in which its tables are generated. -/
def Schema.compile (s : Schema) : Except Diagnostics (Model × List String) := do
  let m ← Model.ofSchema s
  match m.graph.order with
  | .ok order => return (m, order)
  | .error e => throw ⟨[m.cycleError e], m.warnings⟩

end Fixtures
