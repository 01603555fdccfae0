import Fixtures.Calendar.Format
import Fixtures.Encoding.Hex
import Fixtures.Json.Printer

namespace Fixtures

inductive Value
  | null
  | bool (b : Bool)
  | int (n : Int)
  | decimal (x : Float)
  | text (s : String)
  | uuid (s : String)
  | date (d : Date)
  | timestamp (t : Timestamp)
  | binary (bytes : List UInt8)
  | json (j : Json)
  | array (items : List Value)
  deriving Inhabited

namespace Value

def isNull : Value → Bool
  | null => true
  | _ => false

def float? : Value → Option Float
  | int n => some (Float.ofInt n)
  | decimal x => some x
  | _ => none

def int? : Value → Option Int
  | int n => some n
  | _ => none

def bool? : Value → Option Bool
  | bool b => some b
  | _ => none

def text? : Value → Option String
  | text s => some s
  | uuid s => some s
  | _ => none

def timestamp? : Value → Option Timestamp
  | date d => some (.midnight d)
  | timestamp t => some t
  | _ => none

def length? : Value → Option Nat
  | text s => some s.length
  | binary bytes => some bytes.length
  | array items => some items.length
  | _ => none

mutual

/-- The text by which values are told apart where they have to be unique. -/
def key : Value → String
  | .null => "<null>"
  | .bool b => if b then "true" else "false"
  | .int n => toString n
  | .decimal x => Decimal.plain x
  | .text s => s
  | .uuid s => s
  | .date d => Calendar.dateText d
  | .timestamp t => Calendar.timestampText t
  | .binary bytes => Hex.encode bytes
  | .json j => j.compact
  | .array items => "[" ++ Text.joined "," (keys items) ++ "]"

def keys : List Value → List String
  | [] => []
  | v :: vs => key v :: keys vs

end

def boolRank (b : Bool) : Nat :=
  b.toNat

def instant? (v : Value) : Option Timestamp :=
  v.timestamp? <|> v.text?.bind Calendar.parseTimestamp?

def isTemporal : Value → Bool
  | date _ | timestamp _ => true
  | _ => false

def compareText (a b : String) : Ordering :=
  if a < b then .lt else if a = b then .eq else .gt

/-- Order of two values of kinds that can be compared: numbers as floating-point numbers, dates and
timestamps with each other and with texts that are instants, booleans, and texts. -/
def compare? (a b : Value) : Option Ordering :=
  match a.float?, b.float? with
  | some x, some y => Binary64.compare? x y
  | _, _ =>
    match a, b with
    | bool x, bool y => some (Ord.compare (boolRank x) (boolRank y))
    | a, b =>
      if a.isTemporal || b.isTemporal then do
        let x ← a.instant?
        let y ← b.instant?
        return x.compare y
      else do
        let x ← a.text?
        let y ← b.text?
        return compareText x y

mutual

def toJson : Value → Json
  | .null => .null
  | .bool b => .bool b
  | .int n => .int n
  | .decimal x => .float x
  | .text s => .string s
  | .uuid s => .string s
  | .date d => .string (Calendar.dateText d)
  | .timestamp t => .string (Calendar.timestampText t)
  | .binary bytes => .string (Hex.encode bytes)
  | .json j => j
  | .array items => .array (toJsons items)

def toJsons : List Value → List Json
  | [] => []
  | v :: vs => toJson v :: toJsons vs

end

end Value

end Fixtures
