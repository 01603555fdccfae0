import Fixtures.Model.Basic
import Fixtures.Schema.Symbols

namespace Fixtures.Analysis

open Text

/-- What a part of a schema comes to, and the errors found in it. -/
abbrev Reviewed (α : Type) := α × List Diagnostic

/-- What types come down to, once all of them are known. -/
abbrev Resolution := DataType → Except SchemaError ResolvedType

def firstOfEach {α : Type} (name : α → String) (seen : List String) : List α → List α
  | [] => []
  | a :: as =>
    if name a ∈ seen then firstOfEach name seen as
    else a :: firstOfEach name (name a :: seen) as

def ofError (e : SchemaError) : Diagnostic :=
  .error (e.kind?.getD .constraintWellFormedness) e.message

/-- The place of a constraint: that of its field, else that of the table. -/
def placeOf (t : Table) (owner : Option Field) : Option Location :=
  owner.bind Field.location <|> t.location

def defineType (s : Reviewed TypeRegistry) (d : TypeDecl) : Reviewed TypeRegistry :=
  match s.1.define d with
  | .ok next => (next, s.2)
  | .error e => (s.1, s.2 ++ [(ofError e).located d.location])

def registry (s : Schema) : Reviewed TypeRegistry :=
  s.typeDecls.foldl defineType (.empty, [])

def declareField (t : Table) (s : Reviewed SymbolTable) (f : Field) : Reviewed SymbolTable :=
  match s.1.declareField? t.name f.name f.location with
  | some next => (next, s.2)
  | none =>
    (s.1, s.2 ++ [.located f.location <| .onField f.name <| .inTable t.name <|
      .error .duplicateName ("field '" ++ f.name ++ "' is declared more than once")])

def declareTable (s : Reviewed SymbolTable) (t : Table) : Reviewed SymbolTable :=
  match s.1.declareTable t.name t.location with
  | .ok next => t.fields.foldl (declareField t) (next, s.2)
  | .error _ =>
    (s.1, s.2 ++ [.located t.location <| .inTable t.name <|
      .error .duplicateName ("table '" ++ t.name ++ "' is declared more than once")])

def symbols (s : Schema) : Reviewed SymbolTable :=
  s.tables.foldl declareTable (.empty, [])

/-- What is wrong about the constraints of a type that comes down to `r`. -/
def typeErrors (d : TypeDecl) (r : ResolvedType) : List Diagnostic :=
  let misplaced := (d.constraints.filter fun c => !c.isOnValue).map fun c =>
    Diagnostic.error .constraintWellFormedness
      ("type '" ++ d.name ++ "' may only carry value constraints, found " ++ c.kind)
  let conflicts :=
    match Domain.build r.terminal r.constraints with
    | .ok _ => []
    | .error e =>
      [Diagnostic.error .constraintWellFormedness ("type '" ++ d.name ++ "': " ++ e.message)]
  (misplaced ++ conflicts).map (.located d.location)

/-- Types that are resolved, the cycles that are reported so far, and the errors. -/
structure TypeReview where
  types : List (String × ResolvedType) := []
  cycles : List (List String) := []
  errors : List Diagnostic := []

/-- A cycle is reported at the first type that runs into it, and no more. -/
def reviewType (resolve : Resolution) (s : TypeReview) (d : TypeDecl) : TypeReview :=
  match resolve (.custom d.name) with
  | .ok r => { s with types := s.types ++ [(d.name, r)], errors := s.errors ++ typeErrors d r }
  | .error (.circularType cycle) =>
    if nameSet cycle ∈ s.cycles then s
    else
      { s with
        cycles := s.cycles ++ [nameSet cycle]
        errors := s.errors ++ [(ofError (.circularType cycle)).located d.location] }
  | .error e =>
    { s with
      errors := s.errors ++ [.located d.location <|
        .error (e.kind?.getD .undefinedType) ("type '" ++ d.name ++ "': " ++ e.message)] }

def reviewTypes (resolve : Resolution) (definitions : List TypeDecl) : TypeReview :=
  definitions.foldl (reviewType resolve) {}

end Fixtures.Analysis
