import Fixtures.Json.Printer
import Fixtures.Json.Pointer

namespace Fixtures

inductive Json.Kind
  | array
  | boolean
  | integer
  | null
  | number
  | object
  | string
  deriving DecidableEq, Repr

namespace Json.Kind

def name : Json.Kind → String
  | array => "array"
  | boolean => "boolean"
  | integer => "integer"
  | null => "null"
  | number => "number"
  | object => "object"
  | string => "string"

/-- Whether a value is of a kind. A number without a fraction is an integer, however it is
written. -/
def holds : Json.Kind → Json → Bool
  | array, .array _ => true
  | boolean, .bool _ => true
  | integer, .int _ => true
  | integer, .float x => Binary64.floor x == x && x.isFinite
  | null, .null => true
  | number, .int _ => true
  | number, .float _ => true
  | object, .object _ => true
  | string, .string _ => true
  | _, _ => false

end Json.Kind

/-- Sizes of numbers, which are noted in a contract and not checked. -/
inductive NumberFormat
  | uint32
  | uint64
  | int64
  | double
  deriving DecidableEq, Repr

namespace NumberFormat

def name : NumberFormat → String
  | uint32 => "uint32"
  | uint64 => "uint64"
  | int64 => "int64"
  | double => "double"

def isUnsigned : NumberFormat → Bool
  | uint32 | uint64 => true
  | _ => false

end NumberFormat

inductive Contract
  /-- A contract with a name, which is written as a reference to it. -/
  | named (name : String) (target : Contract)
  | all (parts : List Contract)
  | any (options : List Contract)
  | one (options : List Contract)
  | null
  | boolean
  | integer (format : NumberFormat)
  | integerOrNull (format : NumberFormat)
  | number (format : NumberFormat)
  | string
  | stringOrNull
  | word (words : List String)
  | list (items : Contract)
  | anyObject
  /-- An object whose members all have one contract. -/
  | map (values : Contract)
  /-- An object with some members, of which the named ones are required. -/
  | record (members : List (String × Contract)) (required : List String)
  | noted (notes : List (String × Json)) (inner : Contract)
  deriving Inhabited

namespace Contract

def isNegative : Json → Bool
  | .int n => n < 0
  | .float x => x < 0
  | _ => false

inductive Fault
  | wrongKind (value : Json) (kinds : List Json.Kind)
  | missing (member : String)
  | noOption (value : Json) (keyword : String)
  | severalOptions (value : Json)
  | notListed (value : Json) (words : List String)
  | negative (value : Json)

namespace Fault

def kindsText (kinds : List Json.Kind) : String :=
  Text.joined ", " (kinds.map fun k => "\"" ++ k.name ++ "\"")

def message : Fault → String
  | wrongKind value [kind] => value.compact ++ " is not of type \"" ++ kind.name ++ "\""
  | wrongKind value kinds => value.compact ++ " is not of types " ++ kindsText kinds
  | missing member => Json.quoted member ++ " is a required property"
  | noOption value keyword =>
    value.compact ++ " is not valid under any of the schemas listed in the '" ++ keyword ++
      "' keyword"
  | severalOptions value =>
    value.compact ++ " is valid under more than one of the schemas listed in the 'oneOf' keyword"
  | notListed value words =>
    value.compact ++ " is not one of " ++ (Json.ofList Json.string words).compact
  | negative value => value.compact ++ " is less than the minimum of 0.0"

end Fault

structure Violation where
  path : List String
  fault : Fault

def Violation.message (v : Violation) : String :=
  let path := Json.Pointer.render v.path
  (if path.isEmpty then "/" else path) ++ ": " ++ v.fault.message

def kindFault (path : List String) (kinds : List Json.Kind) (j : Json) : List Violation :=
  if kinds.any fun k => k.holds j then [] else [⟨path, .wrongKind j kinds⟩]

def signFault (path : List String) (format : NumberFormat) (j : Json) : List Violation :=
  if format.isUnsigned && isNegative j then [⟨path, .negative j⟩] else []

def wordFault (path : List String) (words : List String) (j : Json) : List Violation :=
  match j with
  | .string s => if words.contains s then [] else [⟨path, .notListed j words⟩]
  | j => [⟨path, .notListed j words⟩]

def missingFault (path : List String) (required : List String) (j : Json) : List Violation :=
  match j with
  | .object _ =>
    (required.filter fun name => (j.get? name).isNone).map fun name => ⟨path, .missing name⟩
  | _ => []

mutual

def violations : Contract → List String → Json → List Violation
  | .named _ target, path, j => target.violations path j
  | .noted _ inner, path, j => inner.violations path j
  | .all parts, path, j => allViolations parts path j
  | .any options, path, j =>
    if 0 < countValid options path j then [] else [⟨path, .noOption j "anyOf"⟩]
  | .one options, path, j =>
    match countValid options path j with
    | 0 => [⟨path, .noOption j "oneOf"⟩]
    | 1 => []
    | _ => [⟨path, .severalOptions j⟩]
  | .null, path, j => kindFault path [.null] j
  | .boolean, path, j => kindFault path [.boolean] j
  | .integer format, path, j => kindFault path [.integer] j ++ signFault path format j
  | .integerOrNull format, path, j => kindFault path [.integer, .null] j ++ signFault path format j
  | .number format, path, j => kindFault path [.number] j ++ signFault path format j
  | .string, path, j => kindFault path [.string] j
  | .stringOrNull, path, j => kindFault path [.null, .string] j
  | .word words, path, j => kindFault path [.string] j ++ wordFault path words j
  | .list items, path, j =>
    kindFault path [.array] j ++
      match j with
      | .array elements =>
        elements.zipIdx.flatMap fun (e, i) => items.violations (path ++ [toString i]) e
      | _ => []
  | .anyObject, path, j => kindFault path [.object] j
  | .map values, path, j =>
    kindFault path [.object] j ++
      match j with
      | .object ms => ms.flatMap fun (key, v) => values.violations (path ++ [key]) v
      | _ => []
  | .record members required, path, j =>
    kindFault path [.object] j ++ missingFault path required j ++ memberViolations members path j

def allViolations : List Contract → List String → Json → List Violation
  | [], _, _ => []
  | c :: cs, path, j => c.violations path j ++ allViolations cs path j

def countValid : List Contract → List String → Json → Nat
  | [], _, _ => 0
  | c :: cs, path, j =>
    (if (c.violations path j).isEmpty then 1 else 0) + countValid cs path j

def memberViolations : List (String × Contract) → List String → Json → List Violation
  | [], _, _ => []
  | (name, c) :: rest, path, j =>
    (match j.get? name with
      | some v => c.violations (path ++ [name]) v
      | none => []) ++ memberViolations rest path j

end

def accepts (c : Contract) (j : Json) : Bool :=
  (c.violations [] j).isEmpty

def kindMember (kinds : List Json.Kind) : String × Json :=
  ("type", match kinds with
    | [k] => .string k.name
    | kinds => .array (kinds.map fun k => .string k.name))

def formatMembers (format : NumberFormat) : List (String × Json) :=
  ("format", .string format.name) ::
    (if format.isUnsigned then [("minimum", .float 0.0)] else [])

mutual

def toMembers : Contract → List (String × Json)
  | .named name _ => [("$ref", .string ("#/definitions/" ++ name))]
  | .noted notes inner => notes ++ toMembers inner
  | .all parts => [("allOf", .array (toSchemas parts))]
  | .any options => [("anyOf", .array (toSchemas options))]
  | .one options => [("oneOf", .array (toSchemas options))]
  | .null => [kindMember [.null]]
  | .boolean => [kindMember [.boolean]]
  | .integer format => kindMember [.integer] :: formatMembers format
  | .integerOrNull format => kindMember [.integer, .null] :: formatMembers format
  | .number format => kindMember [.number] :: formatMembers format
  | .string => [kindMember [.string]]
  | .stringOrNull => [kindMember [.string, .null]]
  | .word words => [kindMember [.string], ("enum", .array (words.map Json.string))]
  | .list items => [kindMember [.array], ("items", Json.ofMembers (toMembers items))]
  | .anyObject => [kindMember [.object], ("additionalProperties", .bool true)]
  | .map values =>
    [kindMember [.object], ("additionalProperties", Json.ofMembers (toMembers values))]
  | .record members required =>
    [kindMember [.object], ("properties", Json.ofMembers (toProperties members))] ++
      (if required.isEmpty then [] else [("required", .array (required.map Json.string))])

def toSchemas : List Contract → List Json
  | [] => []
  | c :: cs => Json.ofMembers (toMembers c) :: toSchemas cs

def toProperties : List (String × Contract) → List (String × Json)
  | [] => []
  | (name, c) :: rest => (name, Json.ofMembers (toMembers c)) :: toProperties rest

end

def toSchema (c : Contract) : Json :=
  Json.ofMembers c.toMembers

def orNull (c : Contract) : Contract :=
  .any [c, .null]

def described (text : String) (c : Contract) : Contract :=
  .noted [("description", .string text)] c

def withDefault (value : Json) (c : Contract) : Contract :=
  .noted [("default", value)] c

end Contract

end Fixtures
