import Fixtures.Generation.Options
import Fixtures.Generation.Parameter

namespace Fixtures.Generation

inductive Strategy
  /-- Lifelike texts; other values are drawn at random. -/
  | faker (locale : Faker.Locale) (library : Faker.Library)
  | random
  | sequential (start step : Int)
  /-- Texts that match a regular expression, which may be that of the field. -/
  | pattern (source : Option String) (maxRepeat : Nat)
  | default

namespace Strategy

def kind : Strategy → StrategyKind
  | faker .. => .faker
  | random => .random
  | sequential .. => .sequential
  | pattern .. => .pattern
  | default => .default

def id (s : Strategy) : String :=
  s.kind.name

def isSequential : Strategy → Bool
  | sequential .. => true
  | _ => false

def encodeParameters : Strategy → List (String × Json)
  | faker locale _ => [("locale", .string locale.name)]
  | sequential start step => [("start", .int start), ("step", .int step)]
  | pattern source maxRepeat =>
    [("pattern", Json.ofOption .string source), ("max_repeat", .ofNat maxRepeat)]
  | random | default => []

def encode (s : Strategy) : Json :=
  .object (("id", .string s.id) :: s.encodeParameters)

/-- Repetitions that an open-ended part of a pattern has at most, beyond those it needs. -/
def defaultMaxRepeat : Nat := 32

end Strategy

/-- A strategy and what is said beside it about nulls and references. -/
structure StrategyConfig where
  strategy : Strategy
  nullRate : Option Float
  distribution : Option Distribution

namespace StrategyConfig

def commonSpecs : ParameterSpecs :=
  [("null_rate", .float), ("distribution", .distribution)]

def specs : StrategyKind → ParameterSpecs
  | .faker => ("locale", .string) :: commonSpecs
  | .random | .default => commonSpecs
  | .sequential => ("start", .int) :: ("step", .int) :: commonSpecs
  | .pattern => ("pattern", .string) :: ("max_repeat", .int) :: commonSpecs

def locale (p : Parameters) (defaults : Options) : Except ParameterError Faker.Locale :=
  let name := (p.string? "locale").getD defaults.locale
  match Faker.Locale.ofName? name with
  | some l => .ok l
  | none => .error (.locale name)

def maxRepeat (p : Parameters) : Except ParameterError Nat :=
  match p.int? "max_repeat" with
  | none => .ok Strategy.defaultMaxRepeat
  | some n =>
    if n ≤ 0 then .error .maxRepeatNotPositive
    else if n < twoTo 32 then .ok n.toNat
    else .error .maxRepeatTooBig

def strategyOf (kind : StrategyKind) (p : Parameters) (defaults : Options) :
    Except ParameterError Strategy :=
  match kind with
  | .faker => (locale p defaults).map (.faker · defaults.faker)
  | .random => .ok .random
  | .sequential => .ok (.sequential ((p.int? "start").getD 1) ((p.int? "step").getD 1))
  | .pattern => (maxRepeat p).map (.pattern (p.string? "pattern"))
  | .default => .ok .default

def isRate (x : Float) : Bool :=
  0.0 ≤ x && x ≤ 1.0

/-- The strategy that options describe. Options that the strategy does not take are refused. -/
def read (kind : StrategyKind) (options : OptionMap) (defaults : Options) :
    Except ParameterError StrategyConfig := do
  let p ← Parameters.check (specs kind) options
  let strategy ← strategyOf kind p defaults
  let nullRate := p.float? "null_rate"
  if nullRate.all isRate then return ⟨strategy, nullRate, p.distribution? "distribution"⟩
  else throw .nullRate

/-- The strategy of a table or of a field, which is the subject of its errors. -/
def ofDirective (kind : StrategyKind) (options : OptionMap) (defaults : Options)
    (subject : String) : Except GenerationError StrategyConfig :=
  match read kind options defaults with
  | .ok config => .ok config
  | .error fault => .error (.directive (.parameter subject fault))

end StrategyConfig

end Fixtures.Generation
