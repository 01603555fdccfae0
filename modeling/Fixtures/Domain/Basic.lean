import Fixtures.Domain.Bounds
import Fixtures.Domain.Terminal
import Fixtures.Regex.Match
import Fixtures.Value.Coerce

namespace Fixtures

inductive DomainError
  | inapplicable (constraint terminal : String)
  | badBound (constraint : String)
  | inverted (constraint : String)
  | badPattern (constraint : String) (reason : Regex.Expression.Error)
  | badEnumValue (constraint : String)
  | noOverlap
  /-- No enum value that the other constraints admit. -/
  | noEnumValue
  deriving DecidableEq, Repr

namespace DomainError

def message : DomainError → String
  | inapplicable constraint terminal => constraint ++ " does not apply to " ++ terminal
  | badBound constraint => constraint ++ " has a bound that does not match the field type"
  | inverted constraint => constraint ++ " has min greater than max"
  | badPattern constraint reason => "invalid regex in " ++ constraint ++ ": " ++ reason.message
  | badEnumValue constraint => constraint ++ " has a value that does not match the field type"
  | noOverlap =>
    "constraints leave no admissible value: range or length bounds do not overlap"
  | noEnumValue =>
    "constraints leave no admissible value: no enum value satisfies every constraint"

end DomainError

/-- A test of a single value, made from one constraint. -/
inductive ValueCheck
  | numeric (label : String) (bounds : Bounds Float)
  | temporal (label : String) (bounds : Bounds Timestamp)
  | pattern (label : String) (expression : Regex.Expression)
  | enum (label : String) (keys : List String)
  | length (label : String) (bounds : Bounds Nat)

namespace ValueCheck

def label : ValueCheck → String
  | numeric label _ => label
  | temporal label _ => label
  | pattern label _ => label
  | enum label _ => label
  | length label _ => label

def admits (v : Value) : ValueCheck → Bool
  | numeric _ bounds => v.float?.any bounds.contains
  | temporal _ bounds => v.timestamp?.any bounds.contains
  | pattern _ expression => v.text?.any expression.isMatch
  | enum _ keys => keys.contains v.key
  | length _ bounds => v.length?.any bounds.contains

end ValueCheck

structure Domain where
  terminal : Terminal
  numeric : Bounds Float := .unbounded
  temporal : Bounds Timestamp := .unbounded
  length : Bounds Nat := .unbounded
  patterns : List String := []
  allowed : Option (List Value) := none
  elementChecks : List ValueCheck := []
  lengthChecks : List ValueCheck := []

namespace Domain

def unconstrained (terminal : Terminal) : Domain :=
  { terminal }

def firstRefusal? (checks : List ValueCheck) (v : Value) : Option String :=
  (checks.find? fun check => !check.admits v).map ValueCheck.label

def elementRefusal? (d : Domain) (v : Value) : Option String :=
  firstRefusal? d.elementChecks v

def lengthRefusal? (d : Domain) (v : Value) : Option String :=
  firstRefusal? d.lengthChecks v

def fixedLengthRefusal? (d : Domain) (count : Nat) : Option String :=
  match d.terminal.fixedLength? with
  | some n => if count = n then none else some ("array length " ++ toString n)
  | none => none

/-- The constraint that a value violates. Null violates none. -/
def refusal? (d : Domain) (v : Value) : Option String :=
  match d.terminal, v with
  | _, .null => none
  | .array .., .array items =>
    d.fixedLengthRefusal? items.length <|> d.lengthRefusal? v <|>
      items.findSome? d.elementRefusal?
  | .array .., _ => some ("type " ++ d.terminal.text)
  | .primitive _, v => d.lengthRefusal? v <|> d.elementRefusal? v

def admits (d : Domain) (v : Value) : Bool :=
  (d.refusal? v).isNone

/-- Dates sit at midnight: a lower bound later in the day admits from the next day on, an upper one
up to its day. -/
def wholeDays (b : Bounds Timestamp) : Bounds Timestamp :=
  let up (t : Timestamp) : Timestamp :=
    if t.isMidnight then .midnight t.date else .midnight ((t.date.addDays? 1).getD .last)
  ⟨b.min.map up, b.max.map fun t => .midnight t.date⟩

def wholeNumbers (b : Bounds Float) : Bounds Float :=
  ⟨b.min.map Binary64.ceil, b.max.map Binary64.floor⟩

def numericBound (label : String) : Option Literal → Except DomainError (Option Float)
  | none => .ok none
  | some .null => .ok none
  | some l =>
    match l.float? with
    | some x => .ok (some x)
    | none => .error (.badBound label)

def temporalBound (label : String) : Option Literal → Except DomainError (Option Timestamp)
  | none => .ok none
  | some .null => .ok none
  | some (.text s) =>
    match Calendar.parseTimestamp? s with
    | some t => .ok (some t)
    | none => .error (.badBound label)
  | some _ => .error (.badBound label)

def nonEmpty {α : Type} [LT α] [DecidableLT α] (label : String) (b : Bounds α) :
    Except DomainError (Bounds α) :=
  if b.isEmpty then .error (.inverted label) else .ok b

def enumValues (p : Primitive) (label : String) (literals : List Literal) :
    Except DomainError (List Value) :=
  literals.mapM fun l =>
    match Value.ofLiteral? p l with
    | some .null => .error (.badEnumValue label)
    | some v => .ok v
    | none => .error (.badEnumValue label)

def hasLength (t : Terminal) : Bool :=
  t.isArray || t.element = .string || t.element = .binary

/-- A domain under construction, with the values of each enum so far. -/
structure Draft where
  domain : Domain
  enums : List (List Value) := []

/-- Adds a constraint to a domain. Keys and checks say nothing about single values. -/
def Draft.add (draft : Draft) (c : Constraint) : Except DomainError Draft := do
  let d := draft.domain
  let label := c.label
  let element := d.terminal.element
  let inapplicable : Except DomainError Draft :=
    .error (.inapplicable label d.terminal.text)
  match c with
  | .range low high =>
    if element.isNumeric then
      let low ← numericBound label low
      let high ← numericBound label high
      let bounds ← nonEmpty label ⟨low, high⟩
      return { draft with domain := { d with
        numeric := d.numeric.tighten bounds
        elementChecks := d.elementChecks ++ [.numeric label bounds] } }
    else if element.isTemporal then
      let low ← temporalBound label low
      let high ← temporalBound label high
      let bounds ← nonEmpty label ⟨low, high⟩
      return { draft with domain := { d with
        temporal := d.temporal.tighten bounds
        elementChecks := d.elementChecks ++ [.temporal label bounds] } }
    else inapplicable
  | .pattern regex =>
    if element = .string then
      match Regex.Expression.compile regex with
      | .ok expression =>
        return { draft with domain := { d with
          patterns := d.patterns ++ [regex]
          elementChecks := d.elementChecks ++ [.pattern label expression] } }
      | .error reason => throw (.badPattern label reason)
    else inapplicable
  | .enum literals =>
    let values ← enumValues element label literals
    return { draft with
      domain := { d with elementChecks := d.elementChecks ++ [.enum label (values.map Value.key)] }
      enums := draft.enums ++ [values] }
  | .length low high =>
    if hasLength d.terminal then
      let bounds ← nonEmpty label ⟨low, high⟩
      return { draft with domain := { d with
        length := d.length.tighten bounds
        lengthChecks := d.lengthChecks ++ [.length label bounds] } }
    else inapplicable
  | .primaryKey .. | .foreignKey .. | .unique .. | .check .. => return draft

/-- Narrows the merged bounds to what values of the type can be. -/
def snap (d : Domain) : Domain :=
  let d :=
    match d.terminal.fixedLength? with
    | some n => { d with length := d.length.tighten ⟨some n, some n⟩ }
    | none => d
  match d.terminal.element with
  | .date => { d with temporal := wholeDays d.temporal }
  | .integer => { d with numeric := wholeNumbers d.numeric }
  | _ => d

/-- The values of the first enum that are in every other one and pass every check. -/
def commonValues (d : Domain) (first : List Value) (rest : List (List Value)) : List Value :=
  first.filter fun v =>
    rest.all (fun values => values.any fun other => other.key = v.key) &&
      (d.elementRefusal? v).isNone

def build (terminal : Terminal) (constraints : List Constraint) : Except DomainError Domain := do
  let draft ← constraints.foldlM Draft.add ⟨unconstrained terminal, []⟩
  let d := draft.domain.snap
  if d.numeric.isEmpty || d.temporal.isEmpty || d.length.isEmpty then throw .noOverlap
  match draft.enums with
  | [] => return d
  | first :: rest =>
    let allowed := commonValues d first rest
    if allowed.isEmpty then throw .noEnumValue
    return { d with allowed := some allowed }

end Domain

end Fixtures
