import Fixtures.Value.Basic

namespace Fixtures

structure Record where
  table : String
  position : Nat
  fields : List String
  values : List Value

namespace Record

def entries (r : Record) : List (String × Value) :=
  r.fields.zip r.values

/-- The value of a field; of several fields of one name the first counts. -/
def get? (r : Record) (field : String) : Option Value :=
  match r.fields.findIdx? (· = field) with
  | some i => r.values[i]?
  | none => none

def size (r : Record) : Nat :=
  r.values.length

def toJson (r : Record) : Json :=
  .object (r.entries.map fun e => (e.1, e.2.toJson))

end Record

end Fixtures
