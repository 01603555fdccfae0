import Fixtures.Regex.Parser.Escape

namespace Fixtures.Regex.Parser

open Fixtures.Text

inductive ClassOp
  | inter
  | diff
  | symmDiff
  deriving DecidableEq, Repr

def ClassOp.apply : ClassOp → CharSet → CharSet → CharSet
  | .inter => CharSet.inter
  | .diff => CharSet.diff
  | .symmDiff => CharSet.symmDiff

/-- Joins what stands before an operator with what stands after it. -/
def joinClass (ignoreCase : Bool) (before : Option (ClassOp × CharSet)) (s : CharSet) : CharSet :=
  match before with
  | none => s
  | some (op, t) => if ignoreCase then op.apply t.foldCase s.foldCase else op.apply t s

def classItem : Parse (Atom × Span) := do
  let start ← place
  if ← isCurrent '\\' then
    let atom ← escape
    return (atom, ← since start)
  else
    let c := (← current?).getD ' '
    let span ← currentSpan
    let _ ← bump
    return (.char c, span)

/-- A character that can be in a class; without Unicode only ASCII can. -/
def classChar (c : Char) (span : Span) : Parse Char := do
  if !(← get).flags.unicode && 128 ≤ c.toNat then defer .unicodeNotAllowed span
  return c

def atomSet : Atom × Span → Parse CharSet
  | (.char c, span) => return .single (← classChar c span)
  | (.set s, _) => return s
  | (.byte _, span) => do
    defer .invalidUtf8 span
    return .empty
  | (.look _, span) => fail .classEscape span

def rangeEnd : Atom × Span → Parse Char
  | (.char c, span) => classChar c span
  | (.byte n, span) => do
    defer .invalidUtf8 span
    return Char.ofNat n
  | (_, span) => fail .classRangeBound span

/-- A character, an escape, or a range of characters; `opened` is the span of the class's
beginning. -/
def classRange (opened : Span) : Parse CharSet := do
  let low ← classItem
  skip
  if ← atEnd then fail .classUnclosed opened
  let next ← peekSkip
  if !(← isCurrent '-') || next = some ']' || next = some '-' then atomSet low
  else
    if !(← bumpSkip) then fail .classUnclosed opened
    let high ← classItem
    let a ← rangeEnd low
    let b ← rangeEnd high
    if b < a then fail .classRangeOrder ⟨low.2.start, high.2.stop⟩
    return .range a b

/-- A bracketed class of ASCII such as `[:digit:]`, or nothing read. -/
def asciiClass : Parse (Option CharSet) := do
  let saved ← get
  let giveUp : Parse (Option CharSet) := do
    set saved
    return none
  if !(← bumpIf "[:") then return ← giveUp
  let negated ← bumpIf "^"
  let name := (← get).rest.takeWhile fun c => c ≠ ':'
  bumpMany name.length
  if !(← bumpIf ":]") then return ← giveUp
  match UnicodeClass.ascii? (String.ofList name) with
  | some s =>
    if negated then
      let unicode := (← get).flags.unicode
      if !unicode then defer .invalidUtf8 (← since saved.position)
      return some s.complement
    else return some s
  | none => giveUp

def leadingHyphens (start : Position) : Nat → Parse Nat
  | 0 => return 0
  | fuel + 1 => do
    if ← isCurrent '-' then
      if !(← bumpSkip) then fail .classUnclosed ⟨start, start⟩
      return (← leadingHyphens start fuel) + 1
    else return 0

/-- What a class is read to: its members, and its depth. -/
structure Class where
  members : CharSet
  depth : Nat

mutual

def bracketed : Nat → Parse Class
  | 0 => do fail .nesting (← here)
  | fuel + 1 => do
    let start ← place
    if !(← bumpSkip) then fail .classUnclosed (← since start)
    let negated ← isCurrent '^'
    if negated then
      if !(← bumpSkip) then fail .classUnclosed (← since start)
    let hyphens ← leadingHyphens start (← remaining)
    let first := if hyphens = 0 then CharSet.empty else .single '-'
    let first ← (do
      if hyphens = 0 && (← isCurrent ']') then
        if !(← bumpSkip) then fail .classUnclosed (← since start)
        return CharSet.single ']'
      else return first : Parse CharSet)
    let opened ← since start
    let body ← classBody fuel opened none first (if first.isEmpty then 0 else 1) 0
    let folded := if (← get).flags.ignoreCase then body.members.foldCase else body.members
    let members := if negated then folded.complement else folded
    if !(← get).flags.unicode && !members.isAscii then defer .invalidUtf8 (← since start)
    return ⟨members, body.depth + 1⟩

/-- The rest of a class up to its closing bracket. `before` is what stands before the last
operator, `members` what has been read after it. -/
def classBody : Nat → Span → Option (ClassOp × CharSet) → CharSet → Nat → Nat → Parse Class
  | 0, _, _, _, _, _ => do fail .nesting (← here)
  | fuel + 1, opened, before, members, count, depth => do
    skip
    let ignoreCase := (← get).flags.ignoreCase
    let operator (op : ClassOp) : Parse Class := do
      bumpMany 2
      classBody fuel opened (some (op, joinClass ignoreCase before members)) .empty 0 (depth + 1)
    match ← current? with
    | none => fail .classUnclosed opened
    | some '[' =>
      match ← asciiClass with
      | some s => classBody fuel opened before (members.union s) (count + 1) depth
      | none =>
        let inner ← bracketed fuel
        classBody fuel opened before (members.union inner.members) (count + 1)
          (max depth inner.depth)
    | some ']' =>
      let _ ← bump
      return ⟨joinClass ignoreCase before members, depth + (if 1 < count then 1 else 0)⟩
    | some c =>
      let next ← peek
      if c = '&' && next = some '&' then operator .inter
      else if c = '-' && next = some '-' then operator .diff
      else if c = '~' && next = some '~' then operator .symmDiff
      else
        let s ← classRange opened
        classBody fuel opened before (members.union s) (count + 1) depth

end

end Fixtures.Regex.Parser
