import Fixtures.Numeric.Basic
import Fixtures.Regex.Error
import Fixtures.Regex.Pattern
import Fixtures.Regex.UnicodeClass

namespace Fixtures.Regex.Parser

open Fixtures.Text

/-- Switches of an expression, set by `(?ims-uURx)`. -/
structure Flags where
  ignoreCase : Bool := false
  multiLine : Bool := false
  dotAll : Bool := false
  swapGreed : Bool := false
  unicode : Bool := true
  carriageReturn : Bool := false
  verbose : Bool := false
  deriving DecidableEq, Repr

/-- What is left to read, where it starts, and what has been read so far that later text depends
on. -/
structure State where
  rest : List Char
  position : Position
  flags : Flags
  groups : Nat
  names : List (String × Span)
  deferred : Option Malformed

abbrev Parse (α : Type) := StateT State (Except Malformed) α

def fail {α : Type} (fault : Fault) (span : Span) : Parse α :=
  throw ⟨fault, span⟩

/-- Remembers a fault that counts only if the grammar has none. -/
def defer (fault : Fault) (span : Span) : Parse Unit :=
  modify fun s => { s with deferred := s.deferred <|> some ⟨fault, span⟩ }

def place : Parse Position := do
  return (← get).position

def current? : Parse (Option Char) := do
  return (← get).rest.head?

def atEnd : Parse Bool := do
  return (← get).rest.isEmpty

def Position.after (p : Position) (c : Char) : Position :=
  if c = '\n' then ⟨p.line + 1, 1⟩ else ⟨p.line, p.column + 1⟩

def here : Parse Span := do
  let p ← place
  return ⟨p, p⟩

def since (start : Position) : Parse Span := do
  return ⟨start, ← place⟩

def currentSpan : Parse Span := do
  let s ← get
  match s.rest with
  | c :: _ => return ⟨s.position, Position.after s.position c⟩
  | [] => return ⟨s.position, s.position⟩

def State.advance (s : State) : State :=
  match s.rest with
  | c :: cs => { s with rest := cs, position := Position.after s.position c }
  | [] => s

def bump : Parse Bool := do
  modify State.advance
  return !(← atEnd)

def bumpMany (n : Nat) : Parse Unit :=
  modify fun s => (List.range n).foldl (fun s _ => s.advance) s

/-- Steps over blanks and comments; `comment` tells whether a comment has begun. -/
def skipFrom (comment : Bool) (position : Position) : List Char → List Char × Position
  | [] => ([], position)
  | c :: cs =>
    let next := Position.after position c
    if comment then skipFrom (c ≠ '\n') next cs
    else if isBlank c then skipFrom false next cs
    else if c = '#' then skipFrom true next cs
    else (c :: cs, position)

def skip : Parse Unit :=
  modify fun s =>
    if s.flags.verbose then
      let (rest, position) := skipFrom false s.position s.rest
      { s with rest, position }
    else s

/-- Steps over a character and what a verbose expression ignores; true if another follows. -/
def bumpSkip : Parse Bool := do
  if !(← bump) then return false
  skip
  return !(← atEnd)

/-- Whether the text begins with `word`; if so, steps over it. -/
def bumpIf (word : String) : Parse Bool := do
  let cs := word.toList
  if cs.isPrefixOf (← get).rest then
    bumpMany cs.length
    return true
  else return false

/-- The next visible character after the current one, as the look ahead in classes takes it. -/
def peekVisible (comment : Bool) : List Char → Option Char
  | [] => none
  | c :: cs =>
    if isBlank c then peekVisible comment cs
    else if !comment && c = '#' then peekVisible true cs
    else some c

def peek : Parse (Option Char) := do
  return (← get).rest.tail.head?

/-- The character after the current one and what a verbose expression ignores. -/
def peekSkip : Parse (Option Char) := do
  let s ← get
  if s.flags.verbose then return peekVisible false s.rest.tail else return s.rest.tail.head?

def isCurrent (c : Char) : Parse Bool := do
  return (← current?) = some c

/-- Takes characters while they satisfy a test, stepping over what a verbose expression ignores. -/
def takeWhileSkip (test : Char → Bool) : Nat → Parse (List Char)
  | 0 => return []
  | fuel + 1 => do
    match ← current? with
    | some c =>
      if test c then
        let _ ← bumpSkip
        return c :: (← takeWhileSkip test fuel)
      else return []
    | none => return []

def remaining : Parse Nat := do
  return (← get).rest.length + 1

def skipBlanks (verbose : Bool) : Parse Unit :=
  modify fun s =>
    let blanks := s.rest.takeWhile isBlank
    let s := (List.range blanks.length).foldl (fun s _ => s.advance) s
    if verbose && s.flags.verbose then
      let (rest, position) := skipFrom false s.position s.rest
      { s with rest, position }
    else s

def decimal : Parse (Except Malformed Nat) := do
  skipBlanks false
  let start ← place
  let digits ← takeWhileSkip Char.isDigit (← remaining)
  let span ← since start
  skipBlanks true
  if digits.isEmpty then return .error ⟨.countEmpty, span⟩
  let n := natOfDigits digits
  if n < twoTo 32 then return .ok n else return .error ⟨.decimalInvalid, span⟩

def orFail {α : Type} : Except Malformed α → Parse α
  | .ok a => return a
  | .error e => throw e

end Fixtures.Regex.Parser
