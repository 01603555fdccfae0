import Fixtures.Generation.Error
import Fixtures.Schema.Basic

namespace Fixtures.Generation

inductive ParameterKind
  | int
  | float
  | string
  | distribution
  deriving DecidableEq, Repr

namespace ParameterKind

def accepts (j : Json) : ParameterKind → Bool
  | int => j.int64?.isSome
  | float => j.float?.isSome
  | string => j.string?.isSome
  | distribution => (j.string?.bind Distribution.ofName?).isSome

end ParameterKind

abbrev ParameterSpecs := List (String × ParameterKind)

namespace ParameterSpecs

def entryError? (specs : ParameterSpecs) (entry : String × Json) : Option ParameterError :=
  match Json.lookup? entry.1 specs with
  | none => some (.unknown entry.1)
  | some kind => if kind.accepts entry.2 then none else some (.invalid entry.1)

def error? (specs : ParameterSpecs) (options : OptionMap) : Option ParameterError :=
  options.findSome? specs.entryError?

end ParameterSpecs

structure Parameters where
  options : OptionMap

namespace Parameters

def check (specs : ParameterSpecs) (options : OptionMap) : Except ParameterError Parameters :=
  match specs.error? options with
  | none => .ok ⟨options⟩
  | some e => .error e

def value? (p : Parameters) (key : String) : Option Json :=
  Json.lookup? key p.options

def int? (p : Parameters) (key : String) : Option Int :=
  (p.value? key).bind Json.int64?

def float? (p : Parameters) (key : String) : Option Float :=
  (p.value? key).bind Json.float?

def string? (p : Parameters) (key : String) : Option String :=
  (p.value? key).bind Json.string?

def distribution? (p : Parameters) (key : String) : Option Distribution :=
  (p.string? key).bind Distribution.ofName?

end Parameters

end Fixtures.Generation
