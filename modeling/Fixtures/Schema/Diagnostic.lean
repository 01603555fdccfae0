import Fixtures.Schema.Encode
import Fixtures.Schema.Decode
import Fixtures.Schema.Text

namespace Fixtures

inductive Severity
  | error
  | warning
  deriving DecidableEq, Repr

namespace Severity

def all : List Severity := [error, warning]

def name : Severity → String
  | error => "error"
  | warning => "warning"

end Severity

inductive DiagnosticKind
  | duplicateName
  | undefinedType
  | undefinedField
  | undefinedTable
  | circularType
  | circularDependency
  | constraintWellFormedness
  | unsatisfiableConstraint
  | emptyReferenceSet
  | invalidDirective
  | invalidDocument
  | missingKey
  | redundantType
  | unusedType
  deriving DecidableEq, Repr

namespace DiagnosticKind

def all : List DiagnosticKind :=
  [duplicateName, undefinedType, undefinedField, undefinedTable, circularType, circularDependency,
    constraintWellFormedness, unsatisfiableConstraint, emptyReferenceSet, invalidDirective,
    invalidDocument, missingKey, redundantType, unusedType]

def code : DiagnosticKind → String
  | duplicateName => "duplicate_name"
  | undefinedType => "undefined_type"
  | undefinedField => "undefined_field"
  | undefinedTable => "undefined_table"
  | circularType => "circular_type"
  | circularDependency => "circular_dependency"
  | constraintWellFormedness => "constraint_well_formedness"
  | unsatisfiableConstraint => "unsatisfiable_constraint"
  | emptyReferenceSet => "empty_reference_set"
  | invalidDirective => "invalid_directive"
  | invalidDocument => "invalid_document"
  | missingKey => "missing_key"
  | redundantType => "redundant_type"
  | unusedType => "unused_type"

end DiagnosticKind

structure Diagnostic where
  severity : Severity
  kind : DiagnosticKind
  message : String
  location : Option Location := none
  table : Option String := none
  field : Option String := none
  deriving DecidableEq, Repr

namespace Diagnostic

def error (kind : DiagnosticKind) (message : String) : Diagnostic :=
  ⟨.error, kind, message, none, none, none⟩

def warning (kind : DiagnosticKind) (message : String) : Diagnostic :=
  ⟨.warning, kind, message, none, none, none⟩

def located (location : Option Location) (d : Diagnostic) : Diagnostic :=
  { d with location }

def inTable (table : String) (d : Diagnostic) : Diagnostic :=
  { d with table := some table }

def onField (field : String) (d : Diagnostic) : Diagnostic :=
  { d with field := some field }

def isError (d : Diagnostic) : Bool :=
  d.severity = .error

def subject (d : Diagnostic) : String :=
  match d.table, d.field with
  | some t, some f => " " ++ t ++ "." ++ f
  | some t, none => " " ++ t
  | none, some f => " " ++ f
  | none, none => ""

def text (d : Diagnostic) : String :=
  d.severity.name ++ "[" ++ d.kind.code ++ "]" ++ d.subject ++
    (match d.location with
      | some l => " (" ++ l.text ++ ")"
      | none => "") ++ ": " ++ d.message

open Json

def encode (d : Diagnostic) : Json :=
  .object ([("severity", .string d.severity.name), ("kind", .string d.kind.code),
    ("message", .string d.message)] ++ memberIf "location" Location.encode d.location ++
    memberIf "table" .string d.table ++ memberIf "field" .string d.field)

def decode? (j : Json) : Option Diagnostic := do
  let ms ← members? ["severity", "kind", "message", "location", "table", "field"] j
  let severity ← required (decodeName Severity.name Severity.all) "severity" ms
  let kind ← required (decodeName DiagnosticKind.code DiagnosticKind.all) "kind" ms
  let message ← required string? "message" ms
  let location ← optional Location.decode? "location" ms
  let table ← optional string? "table" ms
  let field ← optional string? "field" ms
  return ⟨severity, kind, message, location, table, field⟩

end Diagnostic

/-- Errors and warnings, each in the order they were found. -/
structure Diagnostics where
  errors : List Diagnostic := []
  warnings : List Diagnostic := []
  deriving DecidableEq, Repr

namespace Diagnostics

def isOk (ds : Diagnostics) : Bool :=
  ds.errors.isEmpty

def pushError (ds : Diagnostics) (d : Diagnostic) : Diagnostics :=
  { ds with errors := ds.errors ++ [d] }

def pushWarning (ds : Diagnostics) (d : Diagnostic) : Diagnostics :=
  { ds with warnings := ds.warnings ++ [d] }

def push (ds : Diagnostics) (d : Diagnostic) : Diagnostics :=
  match d.severity with
  | .error => ds.pushError d
  | .warning => ds.pushWarning d

def merge (ds other : Diagnostics) : Diagnostics :=
  ⟨ds.errors ++ other.errors, ds.warnings ++ other.warnings⟩

def toList (ds : Diagnostics) : List Diagnostic :=
  ds.errors ++ ds.warnings

def hasKind (ds : Diagnostics) (kind : DiagnosticKind) : Bool :=
  ds.toList.any fun d => d.kind = kind

def text (ds : Diagnostics) : String :=
  Text.joined "\n" (ds.toList.map Diagnostic.text)

open Json

def encode (ds : Diagnostics) : Json :=
  .object [("errors", ofList Diagnostic.encode ds.errors),
    ("warnings", ofList Diagnostic.encode ds.warnings)]

def decode? (j : Json) : Option Diagnostics := do
  let ms ← members? ["errors", "warnings"] j
  let errors ← required (decodeList Diagnostic.decode?) "errors" ms
  let warnings ← required (decodeList Diagnostic.decode?) "warnings" ms
  return ⟨errors, warnings⟩

end Diagnostics

inductive Named
  | type
  | table
  | field
  deriving DecidableEq, Repr

def Named.text : Named → String
  | type => "type"
  | table => "table"
  | field => "field"

inductive SchemaError
  | duplicateName (what : Named) (name : String)
  | undefinedType (name : String)
  /-- Types whose bases lead back to the first of them. -/
  | circularType (cycle : List String)
  /-- Tables whose foreign keys lead back to the first of them. -/
  | circularDependency (cycle : List String)
  | invalidDocument (diagnostics : Diagnostics)
  /-- Text that is no JSON, or a value that is no schema. -/
  | unreadable
  deriving DecidableEq, Repr

namespace SchemaError

def cycleText : List String → String
  | [] => ""
  | first :: rest => Text.joined " -> " (first :: rest ++ [first])

def message : SchemaError → String
  | duplicateName what name => "duplicate " ++ what.text ++ " '" ++ name ++ "'"
  | undefinedType name => "undefined type '" ++ name ++ "'"
  | circularType cycle => "circular type reference: " ++ cycleText cycle
  | circularDependency cycle => "circular foreign-key dependency: " ++ cycleText cycle
  | invalidDocument _ => "invalid schema document"
  | unreadable => "unreadable schema document"

def kind? : SchemaError → Option DiagnosticKind
  | duplicateName .. => some .duplicateName
  | undefinedType _ => some .undefinedType
  | circularType _ => some .circularType
  | circularDependency _ => some .circularDependency
  | invalidDocument _ => some .invalidDocument
  | unreadable => none

end SchemaError

end Fixtures
