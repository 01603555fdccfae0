import Fixtures.Calendar.Format
import Fixtures.Faker.Text
import Fixtures.Generation.Error
import Fixtures.Json.Decode
import Fixtures.Toml.Reader
import Fixtures.Value.Tagged

namespace Fixtures

/-- What a run is told about all tables. An option that is not given has its default. -/
structure Options where
  /-- Rows of a table whose directive does not say how many. -/
  defaultCount : Nat := 100
  maxBatchSize : Nat := 1000
  /-- Bytes that the rows of a batch may take by the estimate. -/
  batchMemoryCeiling : Nat := 8388608
  maxAttemptsValue : Nat := 100
  maxAttemptsRow : Nat := 50
  nullRate : Float := 0.1
  defaultDistribution : Distribution := .uniform
  locale : String := Faker.Locale.enUs.name
  baseDate : Date := ⟨19723, by decide, by decide⟩
  threads : Option Nat := none
  parallel : Bool := true
  /-- Where lifelike texts come from; no document says so. -/
  faker : Faker.Library := Faker.text

namespace Options

def error? (o : Options) : Option OptionsError :=
  if !(0.0 ≤ o.nullRate && o.nullRate ≤ 1.0) then some (.nullRate o.nullRate)
  else if o.maxBatchSize = 0 then some .noBatches
  else if o.maxAttemptsValue = 0 || o.maxAttemptsRow = 0 then some .noAttempts
  else if (Faker.Locale.ofName? o.locale).isNone then some (.locale o.locale)
  else if o.threads = some 0 then some .noThreads
  else none

def checked (o : Options) : Except GenerationError Options :=
  match o.error? with
  | none => .ok o
  | some e => .error (.options e)

/-- Options from values by name, read by the rules of a format. -/
structure Format (α : Type) where
  natWithin? : Nat → α → Option Nat
  float? : α → Option Float
  string? : α → Option String
  bool? : α → Option Bool
  distribution? : α → Option Distribution
  optional? : (α → Option Nat) → α → Option (Option Nat)

/-- The options that are given, and the defaults of the others. -/
def Format.read? {α : Type} (format : Format α) (entries : List (String × α)) : Option Options := do
  let default : Options := {}
  let read {β : Type} (key : String) (fallback : β) (value? : α → Option β) : Option β :=
    match Json.lookup? key entries with
    | none => some fallback
    | some a => value? a
  let defaultCount ← read "default_count" default.defaultCount (format.natWithin? 64)
  let maxBatchSize ← read "max_batch_size" default.maxBatchSize (format.natWithin? 64)
  let batchMemoryCeiling ←
    read "batch_memory_ceiling_bytes" default.batchMemoryCeiling (format.natWithin? 64)
  let maxAttemptsValue ← read "max_attempts_value" default.maxAttemptsValue (format.natWithin? 32)
  let maxAttemptsRow ← read "max_attempts_row" default.maxAttemptsRow (format.natWithin? 32)
  let nullRate ← read "null_rate" default.nullRate format.float?
  let defaultDistribution ←
    read "default_distribution" default.defaultDistribution format.distribution?
  let locale ← read "locale" default.locale format.string?
  let baseDate ← read "base_date" default.baseDate fun a =>
    (format.string? a).bind Calendar.parseLooseDate?
  let threads ← read "threads" default.threads (format.optional? (format.natWithin? 64))
  let parallel ← read "parallel" default.parallel format.bool?
  return {
    defaultCount, maxBatchSize, batchMemoryCeiling, maxAttemptsValue, maxAttemptsRow, nullRate,
    defaultDistribution, locale, baseDate, threads, parallel }

def names : List String :=
  ["default_count", "max_batch_size", "batch_memory_ceiling_bytes", "max_attempts_value",
    "max_attempts_row", "null_rate", "default_distribution", "locale", "base_date", "threads",
    "parallel"]

def jsonFormat : Format Json where
  natWithin? bits j := j.natWithin? bits
  float? := Json.float?
  string? := Json.string?
  bool? := Json.bool?
  distribution? := Json.decodeName Distribution.name Distribution.all
  optional? := Json.nullable

def decode? (j : Json) : Option Options :=
  (Json.members? names j).bind jsonFormat.read?

def tomlNat? (bits : Nat) : Toml → Option Nat
  | .integer n => if 0 ≤ n ∧ n < twoTo bits then some n.toNat else none
  | _ => none

def tomlFloat? : Toml → Option Float
  | .integer n => some (Float.ofInt n)
  | .float x => some x
  | _ => none

def tomlString? : Toml → Option String
  | .string s => some s
  | _ => none

def tomlBool? : Toml → Option Bool
  | .boolean b => some b
  | _ => none

def distributionNamed? (name : String) : Option Distribution :=
  Distribution.all.find? fun d => d.name = name

def tomlDistribution? : Toml → Option Distribution
  | .string s => distributionNamed? s
  | .inline [(s, .inline [])] | .inline [(s, .array [])] => distributionNamed? s
  | .inline [(s, .table _ [])] | .table _ [(s, .table _ [])] => distributionNamed? s
  | .table _ [(s, .inline [])] | .table _ [(s, .array [])] => distributionNamed? s
  | _ => none

def tomlFormat : Format Toml where
  natWithin? := tomlNat?
  float? := tomlFloat?
  string? := tomlString?
  bool? := tomlBool?
  distribution? := tomlDistribution?
  optional? value? t := (value? t).map some

def encode (o : Options) : Json :=
  .object [("default_count", .ofNat o.defaultCount), ("max_batch_size", .ofNat o.maxBatchSize),
    ("batch_memory_ceiling_bytes", .ofNat o.batchMemoryCeiling),
    ("max_attempts_value", .ofNat o.maxAttemptsValue),
    ("max_attempts_row", .ofNat o.maxAttemptsRow), ("null_rate", .ofFloatText o.nullRate),
    ("default_distribution", .string o.defaultDistribution.name), ("locale", .string o.locale),
    ("base_date", .string (Calendar.dateText o.baseDate)),
    ("threads", Json.ofOption Json.ofNat o.threads), ("parallel", .bool o.parallel)]

def ofToml? (source : String) : Option Options :=
  (Toml.Reader.document? source).bind tomlFormat.read?

end Options

end Fixtures
