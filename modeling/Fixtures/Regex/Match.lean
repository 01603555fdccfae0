import Fixtures.Regex.Parser

namespace Fixtures.Regex

/-- Whether each position, from before the first character to after the last, is in a set. -/
abbrev Marks := List Bool

namespace Look

def isWord (unicode : Bool) (c : Char) : Bool :=
  if c.toNat < 128 then UnicodeClass.asciiWord.contains c
  else unicode && UnicodeClass.word.contains c

def holds (before after : Option Char) : Look → Bool
  | .start => before.isNone
  | .stop => after.isNone
  | .lineStart => before.isNone || before = some '\n'
  | .lineStop => after.isNone || after = some '\n'
  | .carriageLineStart =>
    before.isNone || before = some '\n' || (before = some '\r' && after ≠ some '\n')
  | .carriageLineStop =>
    after.isNone || after = some '\r' || (after = some '\n' && before ≠ some '\r')
  | .word kind unicode =>
    let left := before.any (isWord unicode)
    let right := after.any (isWord unicode)
    match kind with
    | .boundary => left != right
    | .inside => left == right
    | .start => !left && right
    | .stop => left && !right
    | .startHalf => !left
    | .stopHalf => !right

def marks (look : Look) (before : Option Char) : List Char → Marks
  | [] => [look.holds before none]
  | c :: cs => look.holds before (some c) :: marks look (some c) cs

end Look

namespace Pattern

def stepOver (test : Char → Bool) (text : List Char) (starts : Marks) : Marks :=
  false :: List.zipWith (fun m c => m && test c) starts text

def both (a b : Marks) : Marks :=
  List.zipWith (fun x y => x && y) a b

def either (a b : Marks) : Marks :=
  List.zipWith (fun x y => x || y) a b

/-- Applies a step a number of times, or until it changes nothing. -/
def times (step : Marks → Marks) : Nat → Marks → Marks
  | 0, marks => marks
  | n + 1, marks =>
    let next := step marks
    if next = marks then marks else times step n next

/-- Adds what a step reaches up to a number of times, or until it adds nothing. -/
def upTo (step : Marks → Marks) : Nat → Marks → Marks
  | 0, marks => marks
  | n + 1, marks =>
    let next := either marks (step marks)
    if next = marks then marks else upTo step n next

mutual

def advance (text : List Char) : Pattern → Marks → Marks
  | .empty, starts => starts
  | .literal cs, starts => cs.foldl (fun marks c => stepOver (· == c) text marks) starts
  | .set s, starts => stepOver s.contains text starts
  | .look l, starts => both (l.marks none text) starts
  | .repetition least most _ p, starts =>
    let start := times (advance text p) least starts
    upTo (advance text p) (match most with
      | some most => most - least
      | none => text.length + 1) start
  | .group _ _ p, starts => advance text p starts
  | .concatenation ps, starts => advanceAll text ps starts
  | .alternatives ps, starts => advanceAny text ps starts

def advanceAll (text : List Char) : List Pattern → Marks → Marks
  | [], starts => starts
  | p :: ps, starts => advanceAll text ps (advance text p starts)

def advanceAny (text : List Char) : List Pattern → Marks → Marks
  | [], starts => starts.map fun _ => false
  | p :: ps, starts => either (advance text p starts) (advanceAny text ps starts)

end

def matchesIn (p : Pattern) (text : String) : Bool :=
  let cs := text.toList
  (p.advance cs (List.replicate (cs.length + 1) true)).any id

end Pattern

structure Expression where
  source : String
  pattern : Pattern

namespace Expression

inductive Error
  | malformed (source : String) (reason : Malformed)
  | tooLarge
  deriving DecidableEq, Repr

def sizeLimit : Nat := 10485760

def Error.message : Error → String
  | .malformed source reason => reason.message source
  | .tooLarge => "Compiled regex exceeds size limit of " ++ toString sizeLimit ++ " bytes."

def compile (source : String) : Except Error Expression :=
  match parse source with
  | .error reason => .error (.malformed source reason)
  | .ok pattern => if sizeLimit < pattern.weight then .error .tooLarge else .ok ⟨source, pattern⟩

def isMatch (e : Expression) (text : String) : Bool :=
  e.pattern.matchesIn text

end Expression

end Fixtures.Regex
