import Fixtures.Regex.Parser.Cursor

namespace Fixtures.Regex.Parser

open Fixtures.Text

def Flags.switch? (on : Bool) (f : Flags) (c : Char) : Option Flags :=
  match c with
  | 'i' => some { f with ignoreCase := on }
  | 'm' => some { f with multiLine := on }
  | 's' => some { f with dotAll := on }
  | 'U' => some { f with swapGreed := on }
  | 'u' => some { f with unicode := on }
  | 'R' => some { f with carriageReturn := on }
  | 'x' => some { f with verbose := on }
  | _ => none

/-- The letters and minus signs of a group of flags, with their spans, up to a colon or a closing
parenthesis. -/
def flagLetters : Nat → List (Char × Span) → Parse (List (Char × Span))
  | 0, seen => return seen
  | fuel + 1, seen => do
    let span ← currentSpan
    match ← current? with
    | none => fail .flagUnfinished (← here)
    | some c =>
      if c = ':' || c = ')' then
        match seen.getLast? with
        | some ('-', negation) => fail .flagDangling negation
        | _ => return seen
      else
        if c ≠ '-' && (Flags.switch? true {} c).isNone then fail .flagUnknown span
        match seen.find? fun e => e.1 = c with
        | some (_, first) =>
          fail (if c = '-' then .negationRepeated first else .flagRepeated first) span
        | none => pure ()
        if !(← bump) then fail .flagUnfinished (← here)
        flagLetters fuel (seen ++ [(c, span)])

def Flags.withLetters (f : Flags) (letters : List Char) : Flags :=
  (letters.foldl
    (fun (on, f) c => if c = '-' then (false, f) else (on, (f.switch? on c).getD f)) (true, f)).2

def isNameChar (isFirst : Bool) (c : Char) : Bool :=
  if isFirst then c = '_' || isAlphabetic c
  else c = '_' || c = '.' || c = '[' || c = ']' || isAlphanumeric c

def groupNameChars : Nat → Bool → Parse (List Char)
  | 0, _ => return []
  | fuel + 1, isFirst => do
    match ← current? with
    | none => return []
    | some '>' => return []
    | some c =>
      if !isNameChar isFirst c then fail .groupNameInvalid (← currentSpan)
      let _ ← bump
      return c :: (← groupNameChars fuel false)

def groupName : Parse String := do
  if ← atEnd then fail .groupNameUnfinished (← here)
  let start ← place
  let name ← groupNameChars (← remaining) true
  let span ← since start
  if ← atEnd then fail .groupNameUnfinished (← here)
  let _ ← bump
  if name.isEmpty then fail .groupNameEmpty ⟨start, start⟩
  let name := String.ofList name
  match (← get).names.find? fun e => e.1 = name with
  | some (_, first) => fail (.groupNameRepeated first) span
  | none => modify fun s => { s with names := (name, span) :: s.names }
  return name

inductive Opening
  | flags
  | plain
  | numbered (number : Nat) (name : Option String)

def nextGroup : Parse Nat := do
  let n := (← get).groups + 1
  modify fun s => { s with groups := n }
  return n

/-- Whether a name of a group begins here; it is then skipped up to its first letter. -/
def namedGroup : Parse Bool := do
  if ← bumpIf "?P<" then return true
  bumpIf "?<"

/-- The beginning of a group after its parenthesis, whose span is given. -/
def groupOpening (opened : Span) : Parse Opening := do
  for sign in ["?=", "?!", "?<=", "?<!"] do
    if ← bumpIf sign then fail .lookAround (← since opened.start)
  let inner ← here
  if ← namedGroup then
    let number ← nextGroup
    let name ← groupName
    return .numbered number (some name)
  else if ← bumpIf "?" then
    if ← atEnd then fail .groupUnclosed opened
    let letters ← flagLetters (← remaining) []
    let isDirective ← isCurrent ')'
    let _ ← bump
    if isDirective && letters.isEmpty then fail .repetitionMissing inner
    modify fun s => { s with flags := s.flags.withLetters (letters.map Prod.fst) }
    return if isDirective then .flags else .plain
  else return .numbered (← nextGroup) none

end Fixtures.Regex.Parser
