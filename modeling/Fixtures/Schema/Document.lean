import Fixtures.Contract.Schema
import Fixtures.Json.Reader
import Fixtures.Schema.Diagnostic

namespace Fixtures.Document

def violations (j : Json) : List Contract.Violation :=
  Contract.schemaRecord.violations [] j

def validate (j : Json) : Diagnostics :=
  ⟨(violations j).map fun v => .error .invalidDocument v.message, []⟩

def load (j : Json) : Except SchemaError Schema :=
  let found := validate j
  if found.isOk then
    match Schema.decode? j with
    | some s => .ok s
    | none => .error .unreadable
  else .error (.invalidDocument found)

def parse (text : String) : Except SchemaError Schema :=
  match Json.parse? text with
  | some j => load j
  | none => .error .unreadable

def render (s : Schema) : String :=
  s.encode.pretty

end Fixtures.Document
