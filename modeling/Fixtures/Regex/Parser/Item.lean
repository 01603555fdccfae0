import Fixtures.Regex.Parser.Bracket

namespace Fixtures.Regex.Parser

open Fixtures.Text

/-- A part of a concatenation: a change of flags, or a pattern with its depth. -/
inductive Item
  | flags
  | pattern (p : Pattern) (depth : Nat)

def Item.depth : Item → Nat
  | .flags => 0
  | .pattern _ depth => depth

def Item.value : Item → Pattern
  | .flags => .empty
  | .pattern p _ => p

def charPattern (flags : Flags) (c : Char) (span : Span) : Parse Pattern := do
  if !flags.ignoreCase then return .literal [c]
  if flags.unicode then
    return if (CaseFolding.others c.toNat).isEmpty then .literal [c]
      else .ofSet (CharSet.single c).foldCase
  if 128 ≤ c.toNat then
    defer .unicodeNotAllowed span
    return .literal [c]
  if c.isAlpha then return .ofSet ((CharSet.single c.toLower).union (.single c.toUpper))
  return .literal [c]

def atomPattern (atom : Atom) (span : Span) : Parse Pattern := do
  match atom with
  | .char c => charPattern (← get).flags c span
  | .byte _ =>
    defer .invalidUtf8 span
    return .empty
  | .set s => return .ofSet s
  | .look l => return .look l

/-- What a dot stands for: any character but the ends of lines. -/
def dot (span : Span) : Parse Pattern := do
  let flags := (← get).flags
  if !flags.unicode then defer .invalidUtf8 span
  let ends : List (Nat × Nat) :=
    if flags.dotAll then []
    else if flags.carriageReturn then [(0xA, 0xA), (0xD, 0xD)]
    else [(0xA, 0xA)]
  return .ofSet (CharSet.ofCodePoints ends).complement

def lineStart (flags : Flags) : Look :=
  if flags.multiLine then (if flags.carriageReturn then .carriageLineStart else .lineStart)
  else .start

def lineStop (flags : Flags) : Look :=
  if flags.multiLine then (if flags.carriageReturn then .carriageLineStop else .lineStop)
  else .stop

def primitive : Parse Item := do
  let span ← currentSpan
  let flags := (← get).flags
  match ← current? with
  | some '\\' =>
    let atom ← escape
    return .pattern (← atomPattern atom (← since span.start)) 0
  | some '.' =>
    let _ ← bump
    return .pattern (← dot span) 0
  | some '^' =>
    let _ ← bump
    return .pattern (.look (lineStart flags)) 0
  | some '$' =>
    let _ ← bump
    return .pattern (.look (lineStop flags)) 0
  | c =>
    let _ ← bump
    return .pattern (← charPattern flags (c.getD ' ') span) 0

def repeatLast (least : Nat) (most : Option Nat) (greedy : Bool) (done : List Item) :
    Parse (List Item) := do
  let greedy := greedy != (← get).flags.swapGreed
  match done with
  | .pattern p depth :: rest =>
    return .pattern (.repeating least most greedy p) (depth + 1) :: rest
  | done => return done

def requireLast (done : List Item) : Parse Unit := do
  match done with
  | .pattern _ _ :: _ => return ()
  | _ => fail .repetitionMissing (← here)

/-- `?`, `*` or `+`, with a question mark after it for the lazy kind. -/
def uncounted (least : Nat) (most : Option Nat) (done : List Item) : Parse (List Item) := do
  requireLast done
  let more ← bump
  let lazy ← (if more then isCurrent '?' else pure false)
  if lazy then let _ ← bump
  repeatLast least most (!lazy) done

def counted (done : List Item) : Parse (List Item) := do
  let start ← place
  requireLast done
  let unclosed {α : Type} : Parse α := do fail .countUnclosed (← since start)
  if !(← bumpSkip) then unclosed
  let least ← decimal
  if ← atEnd then unclosed
  let (least, most) ← (do
    if ← isCurrent ',' then
      if !(← bumpSkip) then unclosed
      if ← isCurrent '}' then return (← orFail least, none)
      else
        let least ← orFail least
        let most ← orFail (← decimal)
        return (least, some most)
    else
      let n ← orFail least
      return (n, some n) : Parse (Nat × Option Nat))
  if !(← isCurrent '}') then unclosed
  let more ← bumpSkip
  let lazy ← (if more then isCurrent '?' else pure false)
  if lazy then let _ ← bump
  if most.any fun n => n < least then fail .countOrder (← since start)
  repeatLast least most (!lazy) done

end Fixtures.Regex.Parser
