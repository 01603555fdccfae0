import Fixtures.Encoding.Uuid
import Fixtures.Json.Reader
import Fixtures.Schema.Basic
import Fixtures.Value.Basic

namespace Fixtures.Value

def jsonFloat (x : Float) : Json :=
  if x.isFinite then .float x else .null

/-- What a text means for a type. Text for the JSON type is read as JSON, and is a string if it is
none. -/
def ofText? (p : Primitive) (s : String) : Option Value :=
  match p with
  | .string => some (.text s)
  | .date => (Calendar.parseDate? s).map .date
  | .timestamp => (Calendar.parseTimestamp? s).map .timestamp
  | .uuid => (Uuid.parse? s).map fun bytes => .uuid (Uuid.render bytes)
  | .binary => (Hex.decode? s).map .binary
  | .json => some (.json ((Json.parse? s).getD (.string s)))
  | .integer | .decimal | .boolean => none

def ofLiteral? (p : Primitive) : Literal → Option Value
  | .null => some .null
  | .bool b =>
    match p with
    | .boolean => some (.bool b)
    | .json => some (.json (.bool b))
    | _ => none
  | .int n =>
    match p with
    | .integer => some (.int n)
    | .decimal => some (.decimal (Float.ofInt n))
    | .json => some (.json (.int n))
    | _ => none
  | .decimal x =>
    match p with
    | .decimal => some (.decimal x)
    | .json => some (.json (jsonFloat x))
    | _ => none
  | .text s => ofText? p s

end Fixtures.Value
