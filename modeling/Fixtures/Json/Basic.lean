import Fixtures.Numeric.Basic

namespace Fixtures

inductive Json
  | null
  | bool (b : Bool)
  | int (n : Int)
  | float (x : Float)
  | string (s : String)
  | array (items : List Json)
  | object (members : List (String × Json))
  deriving Inhabited

namespace Json

/-- Adds a member in key order; a later value replaces an earlier one of the same key. -/
def insertMember {α : Type} (key : String) (value : α) :
    List (String × α) → List (String × α)
  | [] => [(key, value)]
  | (k, v) :: rest =>
    if key < k then (key, value) :: (k, v) :: rest
    else if key = k then (key, value) :: rest
    else (k, v) :: insertMember key value rest

/-- Members in key order; of several with one key the last stays. -/
def sortMembers {α : Type} (members : List (String × α)) : List (String × α) :=
  members.foldl (fun sorted m => insertMember m.1 m.2 sorted) []

def ofMembers (members : List (String × Json)) : Json :=
  .object (sortMembers members)

def lookup? {α : Type} (key : String) (members : List (String × α)) : Option α :=
  members.findSome? fun m => if m.1 = key then some m.2 else none

def get? (key : String) : Json → Option Json
  | .object members => lookup? key members
  | _ => none

def at? (index : Nat) : Json → Option Json
  | .array items => items[index]?
  | _ => none

def string? : Json → Option String
  | .string s => some s
  | _ => none

def bool? : Json → Option Bool
  | .bool b => some b
  | _ => none

def int64? : Json → Option Int
  | .int n => if -9223372036854775808 ≤ n ∧ n ≤ 9223372036854775807 then some n else none
  | _ => none

def natWithin? (bits : Nat) : Json → Option Nat
  | .int n => if 0 ≤ n ∧ n < twoTo bits then some n.toNat else none
  | _ => none

def float? : Json → Option Float
  | .int n => some (Float.ofInt n)
  | .float x => some x
  | _ => none

def array? : Json → Option (List Json)
  | .array items => some items
  | _ => none

def object? : Json → Option (List (String × Json))
  | .object members => some members
  | _ => none

def getD (key : String) (j : Json) : Json :=
  (j.get? key).getD .null

def ofOption {α : Type} (render : α → Json) : Option α → Json
  | none => .null
  | some a => render a

def ofNat (n : Nat) : Json :=
  .int n

def ofList {α : Type} (render : α → Json) (items : List α) : Json :=
  .array (items.map render)

end Json

end Fixtures
