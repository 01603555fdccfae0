import Fixtures.Random.Draw
import Fixtures.Regex.Sample
import Fixtures.Schema.Diagnostic

namespace Fixtures

inductive OptionsError
  | nullRate (x : Float)
  | noBatches
  | noAttempts
  | locale (name : String)
  | noThreads
  deriving DecidableEq, Repr

namespace OptionsError

def message : OptionsError → String
  | nullRate x => "null_rate must be within [0, 1], got " ++ Decimal.plain x
  | noBatches => "max_batch_size must be > 0"
  | noAttempts => "attempt budgets must be > 0"
  | locale name => "unsupported locale '" ++ name ++ "'"
  | noThreads => "threads must be > 0"

end OptionsError

inductive ParameterError
  | unknown (key : String)
  | invalid (key : String)
  | locale (name : String)
  | nullRate
  | maxRepeatTooBig
  | maxRepeatNotPositive
  deriving DecidableEq, Repr

namespace ParameterError

def message : ParameterError → String
  | unknown key => "unknown option '" ++ key ++ "'"
  | invalid key => "invalid value for option '" ++ key ++ "'"
  | locale name => "unsupported locale '" ++ name ++ "'"
  | nullRate => "null_rate must be within [0, 1]"
  | maxRepeatTooBig => "max_repeat must fit u32"
  | maxRepeatNotPositive => "max_repeat must be > 0"

end ParameterError

inductive DirectiveError
  | parameter (subject : String) (fault : ParameterError)
  | unknownTable (table : String)
  | unknownField (table field : String)
  | badPattern (table field source : String) (reason : Regex.SampleError)
  deriving DecidableEq, Repr

namespace DirectiveError

def message : DirectiveError → String
  | parameter subject fault => subject ++ ": " ++ fault.message
  | unknownTable table => "table '" ++ table ++ "' is not in the schema"
  | unknownField table field => "table '" ++ table ++ "' has no field '" ++ field ++ "'"
  | badPattern table field source reason =>
    table ++ "." ++ field ++ ": invalid pattern '" ++ source ++ "': " ++ reason.message

end DirectiveError

inductive GenerationError
  /-- No value, row or key within the attempts that are allowed. -/
  | unsatisfiable (table field constraint : String)
  | emptyReferenceSet (table target : String)
  | directive (e : DirectiveError)
  | options (e : OptionsError)
  | analysis (found : Diagnostics)
  | workers (reason : String)
  | fault (f : Random.Fault)
  deriving DecidableEq, Repr

namespace GenerationError

def message : GenerationError → String
  | unsatisfiable table field constraint =>
    "table '" ++ table ++ "': field '" ++ field ++ "' cannot satisfy " ++ constraint
  | emptyReferenceSet table target =>
    "table '" ++ table ++ "': no generated rows in '" ++ target ++ "' to reference"
  | directive e => "invalid directive: " ++ e.message
  | options e => "invalid options: " ++ e.message
  | analysis found =>
    "schema analysis failed with " ++ toString found.errors.length ++ " error(s)"
  | workers reason => "thread pool error: " ++ reason
  | fault .spanTooLong => "a date is shifted too far"
  | fault .widthNotFinite => "a range of decimals is too wide"
  | fault .listTooLong => "capacity overflow"
  | fault .nothingToChoose => "there is nothing to choose from"
  | fault .notProbability => "a chance is no probability"

def diagnostic? (e : GenerationError) : Option Diagnostic :=
  match e with
  | unsatisfiable table field _ =>
    some (.onField field (.inTable table (.error .unsatisfiableConstraint e.message)))
  | emptyReferenceSet table _ => some (.inTable table (.error .emptyReferenceSet e.message))
  | directive d => some (.error .invalidDirective d.message)
  | analysis found => found.errors.head?
  | options _ | workers _ | fault _ => none

/-- The fault of a computation that asked for a value that does not exist. -/
def fault? : GenerationError → Option Random.Fault
  | fault f => some f
  | _ => none

end GenerationError

end Fixtures
