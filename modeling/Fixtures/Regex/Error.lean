import Fixtures.Text.Ascii

namespace Fixtures.Regex

open Fixtures.Text

structure Position where
  line : Nat
  column : Nat
  deriving DecidableEq, Repr

structure Span where
  start : Position
  stop : Position
  deriving DecidableEq, Repr

inductive Fault
  | classEscape
  | classRangeOrder
  | classRangeBound
  | classUnclosed
  | decimalInvalid
  | hexEmpty
  | hexScalar
  | hexDigit
  | escapeUnfinished
  | escapeUnknown
  | flagDangling
  | flagRepeated (first : Span)
  | negationRepeated (first : Span)
  | flagUnfinished
  | flagUnknown
  | groupNameRepeated (first : Span)
  | groupNameEmpty
  | groupNameInvalid
  | groupNameUnfinished
  | groupUnclosed
  | groupUnopened
  | nesting
  | countOrder
  | countEmpty
  | countUnclosed
  | repetitionMissing
  | boundaryUnclosed
  | boundaryUnknown
  | boundaryUnfinished
  | unicodeClass
  | backreference
  | lookAround
  | unicodeNotAllowed
  | invalidUtf8
  | propertyUnknown
  | propertyValueUnknown
  deriving DecidableEq, Repr

/-- Deepest nesting of groups, classes, repetitions, concatenations and alternations. -/
def nestLimit : Nat := 250

namespace Fault

def text : Fault → String
  | classEscape => "invalid escape sequence found in character class"
  | classRangeOrder => "invalid character class range, the start must be <= the end"
  | classRangeBound => "invalid range boundary, must be a literal"
  | classUnclosed => "unclosed character class"
  | decimalInvalid => "decimal literal invalid"
  | hexEmpty => "hexadecimal literal empty"
  | hexScalar => "hexadecimal literal is not a Unicode scalar value"
  | hexDigit => "invalid hexadecimal digit"
  | escapeUnfinished => "incomplete escape sequence, reached end of pattern prematurely"
  | escapeUnknown => "unrecognized escape sequence"
  | flagDangling => "dangling flag negation operator"
  | flagRepeated _ => "duplicate flag"
  | negationRepeated _ => "flag negation operator repeated"
  | flagUnfinished => "expected flag but got end of regex"
  | flagUnknown => "unrecognized flag"
  | groupNameRepeated _ => "duplicate capture group name"
  | groupNameEmpty => "empty capture group name"
  | groupNameInvalid => "invalid capture group character"
  | groupNameUnfinished => "unclosed capture group name"
  | groupUnclosed => "unclosed group"
  | groupUnopened => "unopened group"
  | nesting =>
    "exceed the maximum number of nested parentheses/brackets (" ++ toString nestLimit ++ ")"
  | countOrder => "invalid repetition count range, the start must be <= the end"
  | countEmpty => "repetition quantifier expects a valid decimal"
  | countUnclosed => "unclosed counted repetition"
  | repetitionMissing => "repetition operator missing expression"
  | boundaryUnclosed =>
    "special word boundary assertion is either unclosed or contains an invalid character"
  | boundaryUnknown =>
    "unrecognized special word boundary assertion, valid choices are: start, end, start-half or " ++
      "end-half"
  | boundaryUnfinished =>
    "found either the beginning of a special word boundary or a bounded repetition on a \\b " ++
      "with an opening brace, but no closing brace"
  | unicodeClass => "invalid Unicode character class"
  | backreference => "backreferences are not supported"
  | lookAround => "look-around, including look-ahead and look-behind, is not supported"
  | unicodeNotAllowed => "Unicode not allowed here"
  | invalidUtf8 => "pattern can match invalid UTF-8"
  | propertyUnknown => "Unicode property not found"
  | propertyValueUnknown => "Unicode property value not found"

def other? : Fault → Option Span
  | flagRepeated first => some first
  | negationRepeated first => some first
  | groupNameRepeated first => some first
  | _ => none

end Fault

structure Malformed where
  fault : Fault
  span : Span
  deriving DecidableEq, Repr

namespace Malformed

/-- Lines of a text; a line break at the end starts no further line. -/
def linesOf (cs : List Char) : List (List Char) :=
  match (cs.splitOn '\n').reverse with
  | [] :: rest => rest.reverse.map dropReturn
  | lines => lines.reverse.map dropReturn
where
  dropReturn (line : List Char) : List Char :=
    if line.getLast? = some '\r' then line.dropLast else line

def spans (m : Malformed) : List Span :=
  m.span :: m.fault.other?.toList

def spansOn (m : Malformed) (line : Nat) : List Span :=
  (m.spans.filter fun s => s.start.line = line && s.stop.line = line).mergeSort fun a b =>
    a.start.column < b.start.column ||
      a.start.column = b.start.column && a.stop.column ≤ b.stop.column

def marks (reached : Nat) : List Span → List Char
  | [] => []
  | s :: rest =>
    let gap := s.start.column - 1 - reached
    let width := max 1 (s.stop.column - s.start.column)
    List.replicate gap ' ' ++ List.replicate width '^' ++ marks (reached + gap + width) rest

def annotated (m : Malformed) (width : Nat) (number : Nat) (line : List Char) : List String :=
  let label := if width = 0 then "    " else padLeft width ' ' (toString number) ++ ": "
  let margin := String.ofList (List.replicate (if width = 0 then 4 else width + 2) ' ')
  let found := m.spansOn number
  (label ++ String.ofList line) ::
    (if found.isEmpty then [] else [margin ++ String.ofList (marks 0 found)])

def acrossText (s : Span) : String :=
  "on line " ++ toString s.start.line ++ " (column " ++ toString s.start.column ++
    ") through line " ++ toString s.stop.line ++ " (column " ++ toString (s.stop.column - 1) ++ ")"

def message (m : Malformed) (expression : String) : String :=
  let cs := expression.toList
  let lines := linesOf cs
  let count := lines.length + (if cs.getLast? = some '\n' then 1 else 0)
  let width := if count ≤ 1 then 0 else (toString count).length
  let shown := (lines.zipIdx 1).flatMap fun (line, number) => m.annotated width number line
  let divider := String.ofList (List.replicate 79 '~')
  let across := m.spans.filter fun s => s.start.line ≠ s.stop.line
  let framed :=
    if cs.contains '\n' then [divider] ++ shown ++ [divider] ++ across.map acrossText else shown
  joined "\n" (["regex parse error:"] ++ framed ++ ["error: " ++ m.fault.text])

end Malformed

end Fixtures.Regex
