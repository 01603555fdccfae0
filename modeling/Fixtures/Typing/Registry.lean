import Fixtures.Domain.Terminal
import Fixtures.Schema.Diagnostic

namespace Fixtures

/-- What a type comes down to: its terminal, the constraints on the way with those of the type
itself first, and the names on the way. -/
structure ResolvedType where
  terminal : Terminal
  constraints : List Constraint := []
  chain : List String := []
  deriving DecidableEq, Repr

/-- Types in the order of their definition, and the answers given so far. -/
structure TypeRegistry where
  definitions : List TypeDecl := []
  answers : List (String × ResolvedType) := []

namespace TypeRegistry

def empty : TypeRegistry := {}

def contains (r : TypeRegistry) (name : String) : Bool :=
  r.definitions.any fun d => d.name = name

def names (r : TypeRegistry) : List String :=
  r.definitions.map TypeDecl.name

/-- Names of built-in types, in any case and with blanks around them, and names that are taken
cannot be defined. -/
def define (r : TypeRegistry) (d : TypeDecl) : Except SchemaError TypeRegistry :=
  if (Primitive.ofName? d.name).isSome || r.contains d.name then
    .error (.duplicateName .type d.name)
  else .ok { r with definitions := r.definitions ++ [d] }

def answer? (r : TypeRegistry) (name : String) : Option ResolvedType :=
  (r.answers.find? fun a => a.1 = name).map Prod.snd

def take? (name : String) : List TypeDecl → Option (TypeDecl × List TypeDecl)
  | [] => none
  | d :: ds => if d.name = name then some (d, ds) else (take? name ds).map fun r => (r.1, d :: r.2)

theorem length_of_take? {name : String} {ds rest : List TypeDecl} {d : TypeDecl}
    (h : take? name ds = some (d, rest)) : rest.length < ds.length := by
  induction ds generalizing rest with
  | nil => simp [take?] at h
  | cons e es ih =>
    by_cases he : e.name = name
    · simp only [take?, he, if_true, Option.some.injEq, Prod.mk.injEq] at h
      simp [← h.2]
    · simp only [take?, he, if_false, Option.map_eq_some_iff] at h
      obtain ⟨⟨a, as⟩, ha, heq⟩ := h
      simp only [Prod.mk.injEq] at heq
      obtain ⟨rfl, rfl⟩ := heq
      simpa using ih ha

/-- The names from a name on, which close a cycle if a walk comes back to it. -/
def cycleFrom (name : String) (walk : List String) : List String :=
  walk.dropWhile (· ≠ name)

/-- Follows bases from a name. The walk so far is `chain`, and definitions that it has not used are
`unused`. A name with an answer ends the walk with that answer's rest. -/
def walk (answer? : String → Option ResolvedType) (unused : List TypeDecl) (chain : List String)
    (constraints : List Constraint) (name : String) : Except SchemaError ResolvedType :=
  if name ∈ chain then .error (.circularType (cycleFrom name chain))
  else
    match answer? name with
    | some known => .ok ⟨known.terminal, constraints ++ known.constraints, chain ++ known.chain⟩
    | none =>
      match _taken : take? name unused with
      | none => .error (.undefinedType name)
      | some (d, rest) =>
        match d.base with
        | .primitive p => .ok ⟨.primitive p, constraints ++ d.constraints, chain ++ [name]⟩
        | .array item length =>
          .ok ⟨.array item length, constraints ++ d.constraints, chain ++ [name]⟩
        | .custom base =>
          walk answer? rest (chain ++ [name]) (constraints ++ d.constraints) base
termination_by unused.length
decreasing_by exact length_of_take? _taken

/-- What a name comes down to, and the registry that remembers it. -/
def resolveName (r : TypeRegistry) (name : String) :
    Except SchemaError ResolvedType × TypeRegistry :=
  match r.answer? name with
  | some known => (.ok known, r)
  | none =>
    match walk r.answer? r.definitions [] [] name with
    | .ok resolved => (.ok resolved, { r with answers := r.answers ++ [(name, resolved)] })
    | .error e => (.error e, r)

def resolve (r : TypeRegistry) : DataType → Except SchemaError ResolvedType × TypeRegistry
  | .primitive p => (.ok { terminal := .primitive p }, r)
  | .array item length => (.ok { terminal := .array item length }, r)
  | .custom name => r.resolveName name

end TypeRegistry

end Fixtures
