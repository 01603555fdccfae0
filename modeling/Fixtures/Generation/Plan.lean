import Fixtures.Generation.RowKey
import Fixtures.Generation.Strategy
import Fixtures.Generation.TextPattern
import Fixtures.Model.Basic

namespace Fixtures.Generation

structure FieldPlan where
  name : String
  strategy : Strategy
  nullRate : Float
  /-- What texts of the field are drawn from, if it has a pattern. -/
  pattern : Option Regex.Sampler
  topic : Faker.Topic
  /-- Whether the field may come out as null: it is nullable and in no key. -/
  nullable : Bool
  /-- Whether values follow from the number of the row. -/
  rowKeyed : Bool
  /-- Position of the last foreign key that the field belongs to. -/
  foreignKey : Option Nat

structure ForeignKeyPlan where
  /-- Positions of the fields, in the order of the target fields. -/
  fields : List Nat
  targetTable : String
  targetFields : List String
  distribution : Distribution

/-- A primary or unique key by the positions of its fields. -/
structure KeyPlan where
  label : String
  fields : List Nat
  deriving DecidableEq, Repr

structure TablePlan where
  name : String
  fieldNames : List String
  fields : List FieldPlan
  foreignKeys : List ForeignKeyPlan
  keys : List KeyPlan
  count : Nat
  strategy : Strategy

namespace TablePlan

def sourceOf (f : FieldPlan) : String :=
  if f.foreignKey.isSome then "reference" else f.strategy.id

/-- Adds to the count of a name, which is put at the end if it is new. -/
def tally (name : String) (n : Nat) : List (String × Nat) → List (String × Nat)
  | [] => [(name, n)]
  | (k, m) :: rest => if k = name then (k, m + n) :: rest else (k, m) :: tally name n rest

def sources (p : TablePlan) : List (String × Nat) :=
  p.fields.foldl (fun counts f => tally (sourceOf f) 1 counts) []

def nameAt (p : TablePlan) (i : Nat) : String :=
  p.fieldNames.getD i ""

def positions (t : Model.Table) (names : List String) : Except GenerationError (List Nat) :=
  names.mapM fun name =>
    match t.fieldIndex? name with
    | some i => .ok i
    | none => .error (.directive (.unknownField t.name name))

def override? (t : Model.Table) (field : String) : Option Model.Override :=
  Json.lookup? field t.directive.overrides

def fieldConfig (o : Options) (t : Model.Table) (general : StrategyConfig) (f : Model.Field) :
    Except GenerationError StrategyConfig :=
  match override? t f.name with
  | some own => StrategyConfig.ofDirective own.strategy own.options o (t.name ++ "." ++ f.name)
  | none => .ok general

/-- The distribution that the first field with a strategy and a distribution of its own asks for. -/
def ownDistribution? (t : Model.Table) (configs : List StrategyConfig) (fields : List Nat) :
    Option Distribution :=
  fields.findSome? fun i =>
    match t.fields[i]?, configs[i]? with
    | some f, some config => if (override? t f.name).isSome then config.distribution else none
    | _, _ => none

def planForeignKey (t : Model.Table) (configs : List StrategyConfig) (general : Distribution)
    (k : ForeignKey) : Except GenerationError ForeignKeyPlan := do
  let fields ← positions t k.fields
  let distribution := k.distribution <|> ownDistribution? t configs fields
  return ⟨fields, k.targetTable, k.targetFields, distribution.getD general⟩

/-- The sampler of a text field: of its first pattern if that can be sampled, or of the pattern of
its strategy if the field has none. -/
def fieldPattern (t : Model.Table) (f : Model.Field) (s : Strategy) :
    Except GenerationError (Option Regex.Sampler) :=
  if f.terminal.element ≠ .string then .ok none
  else
    let (source, maxRepeat) :=
      match s with
      | .pattern source maxRepeat => (source, maxRepeat)
      | _ => (none, Strategy.defaultMaxRepeat)
    match f.domain.patterns.head?, source with
    | some own, _ => .ok (compilePattern own maxRepeat).toOption
    | none, some source =>
      match compilePattern source maxRepeat with
      | .ok sampler => .ok (some sampler)
      | .error reason => .error (.directive (.badPattern t.name f.name source reason))
    | none, none => .ok none

/-- Whether keys of a field can follow from the number of the row. -/
def canDeriveKeys (f : Model.Field) : Bool :=
  match f.terminal with
  | .primitive p => derivesKeys p
  | .array .. => false

def lastIndex? {α : Type} (p : α → Bool) (as : List α) : Option Nat :=
  (as.reverse.findIdx? p).map fun i => as.length - 1 - i

def planField (t : Model.Table) (foreignKeys : List ForeignKeyPlan) (nullRate : Float)
    (index : Nat) (f : Model.Field) (config : StrategyConfig) :
    Except GenerationError FieldPlan := do
  let foreignKey := lastIndex? (fun k => k.fields.contains index) foreignKeys
  let pattern ← fieldPattern t f config.strategy
  let inKey := t.keys.any fun k => k.fields.contains f.name
  return {
    name := f.name
    strategy := config.strategy
    nullRate := config.nullRate.getD nullRate
    pattern
    topic := .ofField f.name
    nullable := f.nullable && foreignKey.isNone && !inKey
    rowKeyed := inKey && foreignKey.isNone && pattern.isNone && f.domain.allowed.isNone &&
      !config.strategy.isSequential && canDeriveKeys f
    foreignKey }

/-- Plans fields one after the other, numbered from `index` on. -/
def planFields (t : Model.Table) (foreignKeys : List ForeignKeyPlan) (nullRate : Float) :
    Nat → List (Model.Field × StrategyConfig) → Except GenerationError (List FieldPlan)
  | _, [] => .ok []
  | index, (f, config) :: rest => do
    let plan ← planField t foreignKeys nullRate index f config
    let plans ← planFields t foreignKeys nullRate (index + 1) rest
    return plan :: plans

def planKey (t : Model.Table) (k : Model.Key) : Except GenerationError KeyPlan := do
  return ⟨k.label, ← positions t k.fields⟩

def ofTable (o : Options) (t : Model.Table) : Except GenerationError TablePlan := do
  let general ← StrategyConfig.ofDirective t.directive.strategy t.directive.options o t.name
  let configs ← t.fields.mapM (fieldConfig o t general)
  let distribution := general.distribution.getD o.defaultDistribution
  let foreignKeys ← t.foreignKeys.mapM (planForeignKey t configs distribution)
  let nullRate := general.nullRate.getD o.nullRate
  let fields ← planFields t foreignKeys nullRate 0 (t.fields.zip configs)
  let keys ← t.keys.mapM (planKey t)
  return {
    name := t.name
    fieldNames := t.fieldNames
    fields
    foreignKeys
    keys
    count := t.directive.count.getD o.defaultCount
    strategy := general.strategy }

def tableOf (m : Model) (name : String) : Except GenerationError Model.Table :=
  match m.table? name with
  | some t => .ok t
  | none => .error (.directive (.unknownTable name))

def ofOrder (o : Options) (m : Model) (order : List String) :
    Except GenerationError (List TablePlan) :=
  order.mapM fun name => do ofTable o (← tableOf m name)

end TablePlan

open Json

def FieldPlan.encode (f : FieldPlan) : Json :=
  .object [("name", .string f.name), ("strategy", f.strategy.encode),
    ("null_rate", .ofFloatText f.nullRate), ("regex", .bool f.pattern.isSome),
    ("semantic", .string f.topic.name), ("nullable", .bool f.nullable),
    ("row_keyed", .bool f.rowKeyed), ("foreign_key", ofOption ofNat f.foreignKey)]

def ForeignKeyPlan.encode (k : ForeignKeyPlan) : Json :=
  .object [("fields", ofList ofNat k.fields), ("target_table", .string k.targetTable),
    ("target_fields", ofList .string k.targetFields), ("distribution", .string k.distribution.name)]

def KeyPlan.encode (k : KeyPlan) : Json :=
  .object [("label", .string k.label), ("fields", ofList ofNat k.fields)]

def TablePlan.encode (p : TablePlan) : Json :=
  .object [("name", .string p.name), ("count", ofNat p.count), ("strategy", p.strategy.encode),
    ("strategy_fields", ofList (fun s => .array [.string s.1, ofNat s.2]) p.sources),
    ("fields", ofList FieldPlan.encode p.fields),
    ("foreign_keys", ofList ForeignKeyPlan.encode p.foreignKeys),
    ("key_sets", ofList KeyPlan.encode p.keys)]

end Fixtures.Generation
