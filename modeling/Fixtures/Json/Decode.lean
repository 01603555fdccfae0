import Fixtures.Json.Basic

namespace Fixtures.Json

/-- The members that a structure with given fields is decoded from. -/
def members? (fields : List String) : Json → Option (List (String × Json))
  | .object ms => some ms
  | .array items => if items.length ≤ fields.length then some (fields.zip items) else none
  | _ => none

def required {α : Type} (decode : Json → Option α) (key : String) (ms : List (String × Json)) :
    Option α :=
  (lookup? key ms).bind decode

def defaulted {α : Type} (default : α) (decode : Json → Option α) (key : String)
    (ms : List (String × Json)) : Option α :=
  match lookup? key ms with
  | none => some default
  | some j => decode j

def nullable {α : Type} (decode : Json → Option α) : Json → Option (Option α)
  | .null => some none
  | j => (decode j).map some

def optional {α : Type} (decode : Json → Option α) : String → List (String × Json) →
    Option (Option α) :=
  defaulted none (nullable decode)

def decodeList {α : Type} (decode : Json → Option α) (j : Json) : Option (List α) :=
  j.array?.bind (List.mapM decode)

def decodeMap {α : Type} (decode : Json → Option α) (j : Json) : Option (List (String × α)) :=
  j.object?.bind (List.mapM fun m => (decode m.2).map fun a => (m.1, a))

/-- One of several names: the name itself, or an object with a null member of that name. -/
def decodeName {α : Type} (name : α → String) (all : List α) : Json → Option α
  | .string s => all.find? fun a => name a = s
  | .object [(s, .null)] => all.find? fun a => name a = s
  | _ => none

/-- The kind of a tagged structure and what its fields are decoded from: an object with a `kind`
member, or an array that begins with the kind. -/
def tagged? : Json → Option (String × Json)
  | .object ms => (required string? "kind" ms).map fun kind => (kind, .object ms)
  | .array (.string kind :: items) => some (kind, .array items)
  | _ => none

end Fixtures.Json
