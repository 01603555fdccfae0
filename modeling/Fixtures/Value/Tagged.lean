import Fixtures.Json.Decode
import Fixtures.Value.Coerce

namespace Fixtures

def Json.ofFloatText (x : Float) : Json :=
  .string (Decimal.plain x)

namespace Value

def taggedAs (kind : String) (body : Json) : Json :=
  .object [("t", .string kind), ("v", body)]

mutual

def encode : Value → Json
  | .null => .object [("t", .string "null")]
  | .bool b => taggedAs "bool" (.bool b)
  | .int n => taggedAs "int" (.int n)
  | .decimal x => taggedAs "decimal" (.ofFloatText x)
  | .text s => taggedAs "text" (.string s)
  | .uuid s => taggedAs "uuid" (.string s)
  | .date d => taggedAs "date" (.string (Calendar.dateText d))
  | .timestamp t => taggedAs "timestamp" (.string (Calendar.timestampText t))
  | .binary bytes => taggedAs "binary" (.string (Hex.encode bytes))
  | .json j => taggedAs "json" j
  | .array items => taggedAs "array" (.array (encodeAll items))

def encodeAll : List Value → List Json
  | [] => []
  | v :: vs => encode v :: encodeAll vs

end

/-- A value of a kind that has no parts. Dates, instants and bytes may have any spelling that a
literal of theirs may have. -/
def ofBody? (kind : String) (body : Json) : Option Value :=
  match kind with
  | "null" => some .null
  | "bool" => body.bool?.map .bool
  | "int" => body.int64?.map .int
  | "decimal" => (body.string?.bind Decimal.read?).map .decimal
  | "text" => body.string?.map .text
  | "uuid" => body.string?.map .uuid
  | "date" => body.string?.bind (ofText? .date)
  | "timestamp" => body.string?.bind (ofText? .timestamp)
  | "binary" => body.string?.bind (ofText? .binary)
  | "json" => some (.json body)
  | _ => none

def decodeNested? : Nat → Json → Option Value
  | 0, _ => none
  | depth + 1, j => do
    let kind ← (j.getD "t").string?
    let body := j.getD "v"
    if kind = "array" then ((← body.array?).mapM (decodeNested? depth)).map .array
    else ofBody? kind body

/-- Text is nested no deeper than its reader allows, and an array takes two levels. -/
def decode? : Json → Option Value :=
  decodeNested? 128

end Value

end Fixtures
