import Fixtures.Regex.Parser.Cursor

namespace Fixtures.Regex.Parser

open Fixtures.Text

/-- What an escape or a single character stands for. -/
inductive Atom
  | char (c : Char)
  | byte (value : Nat)
  | set (members : CharSet)
  | look (condition : Look)

def hexDigits : Nat → Bool → Parse (List Char)
  | 0, _ => return []
  | n + 1, isFirst => do
    if !isFirst then
      if !(← bumpSkip) then fail .escapeUnfinished (← here)
    match ← current? with
    | some c =>
      if (hexDigit? c).isNone then fail .hexDigit (← currentSpan)
      return c :: (← hexDigits n false)
    | none => fail .escapeUnfinished (← here)

def hexBraced : Nat → Parse (List Char)
  | 0 => return []
  | fuel + 1 => do
    if !(← bumpSkip) then return []
    match ← current? with
    | some '}' => return []
    | some c =>
      if (hexDigit? c).isNone then fail .hexDigit (← currentSpan)
      return c :: (← hexBraced fuel)
    | none => return []

def scalar? (n : Nat) : Option Char :=
  if n < 0xD800 || (0xE000 ≤ n && n < 0x110000) then some (Char.ofNat n) else none

/-- A code point after `\x`, `\u` or `\U`. Without Unicode, `\x80` and above are bytes. -/
def hexEscape (kind : Char) : Parse Atom := do
  if !(← bumpSkip) then fail .escapeUnfinished (← here)
  let atom (n : Nat) : Parse (Option Atom) := do
    if kind = 'x' && !(← get).flags.unicode && 128 ≤ n && n < 256 then return some (.byte n)
    else return (scalar? n).map .char
  if ← isCurrent '{' then
    let brace ← place
    let inside ← currentSpan
    let digits ← hexBraced (← remaining)
    if ← atEnd then fail .escapeUnfinished (← since brace)
    let stop ← place
    let _ ← bumpSkip
    if digits.isEmpty then fail .hexEmpty (← since brace)
    match ← atom (natOfHex digits) with
    | some a => return a
    | none => fail .hexScalar ⟨inside.stop, stop⟩
  else
    let start ← place
    let count := if kind = 'x' then 2 else if kind = 'u' then 4 else 8
    let digits ← hexDigits count true
    let _ ← bumpSkip
    let stop ← place
    match ← atom (natOfHex digits) with
    | some a => return a
    | none => fail .hexScalar ⟨start, stop⟩

def untilBrace : Nat → Parse (List Char)
  | 0 => return []
  | fuel + 1 => do
    if !(← bumpSkip) then return []
    match ← current? with
    | some '}' => return []
    | some c => return c :: (← untilBrace fuel)
    | none => return []

def splitAtMark (mark : List Char) : List Char → Option (List Char × List Char)
  | [] => none
  | c :: cs =>
    if mark.isPrefixOf (c :: cs) then some ([], (c :: cs).drop mark.length)
    else (splitAtMark mark cs).map fun (a, b) => (c :: a, b)

def classNamed (name : List Char) : Except Fault CharSet :=
  let valued (negated : Bool) (property value : List Char) : Except Fault CharSet :=
    match UnicodeClass.valued (String.ofList property) (String.ofList value) with
    | .ok s => .ok (if negated then s.complement else s)
    | .error .property => .error .propertyUnknown
    | .error .value => .error .propertyValueUnknown
  match splitAtMark ['!', '='] name, splitAtMark [':'] name, splitAtMark ['='] name with
  | some (property, value), _, _ => valued true property value
  | none, some (property, value), _ => valued false property value
  | none, none, some (property, value) => valued false property value
  | none, none, none =>
    match UnicodeClass.named? (String.ofList name) with
    | some s => .ok s
    | none => .error .propertyUnknown

/-- A set as an atom: other cases are added before it is complemented. -/
def classAtom (negated : Bool) (s : CharSet) : Parse Atom := do
  let s := if (← get).flags.ignoreCase then s.foldCase else s
  return .set (if negated then s.complement else s)

def unicodeEscape (start : Position) (negated : Bool) : Parse Atom := do
  if !(← bumpSkip) then fail .escapeUnfinished (← here)
  let name ← (do
    if ← isCurrent '{' then
      let name ← untilBrace (← remaining)
      if ← atEnd then fail .escapeUnfinished (← here)
      let _ ← bump
      return name
    else
      if ← isCurrent '\\' then fail .unicodeClass (← currentSpan)
      let c ← current?
      let _ ← bumpSkip
      return c.toList : Parse (List Char))
  let span ← since start
  if !(← get).flags.unicode then
    defer .unicodeNotAllowed span
    return .set .empty
  match classNamed name with
  | .ok s => classAtom negated s
  | .error fault =>
    defer fault span
    return .set .empty

def perlClass (start : Position) (c : Char) : Parse Atom := do
  let _ ← bump
  let unicode := (← get).flags.unicode
  let s :=
    match c.toLower with
    | 'd' => if unicode then UnicodeClass.digit else UnicodeClass.asciiDigit
    | 's' => if unicode then UnicodeClass.space else UnicodeClass.asciiSpace
    | _ => if unicode then UnicodeClass.word else UnicodeClass.asciiWord
  if c.isUpper then
    if !unicode then defer .invalidUtf8 (← since start)
    return .set s.complement
  else return .set s

/-- Characters that a backslash may stand before, other than letters and digits. -/
def isEscapable (c : Char) : Bool :=
  c.toNat < 128 && !c.isAlphanum && c ≠ '<' && c ≠ '>'

def wordLook (kind : WordLook) : Parse Atom := do
  return .look (.word kind (← get).flags.unicode)

/-- A name in braces after `\b`; anything else in braces is left for a counted repetition. -/
def namedBoundary (start : Position) : Parse (Option WordLook) := do
  let saved ← get
  let brace ← place
  if !(← bumpSkip) then fail .boundaryUnfinished (← since start)
  let inside ← place
  let isNameChar (c : Char) : Bool := c.isAlpha || c = '-'
  if !((← current?).any isNameChar) then
    set saved
    return none
  let name ← takeWhileSkip isNameChar (← remaining)
  if !(← isCurrent '}') then fail .boundaryUnclosed (← since brace)
  let stop ← place
  let _ ← bump
  match String.ofList name with
  | "start" => return some .start
  | "end" => return some .stop
  | "start-half" => return some .startHalf
  | "end-half" => return some .stopHalf
  | _ => fail .boundaryUnknown ⟨inside, stop⟩

def escape : Parse Atom := do
  let start ← place
  if !(← bump) then fail .escapeUnfinished (← since start)
  let some c ← current? | fail .escapeUnfinished (← since start)
  if c.isDigit then fail .backreference ⟨start, (← currentSpan).stop⟩
  if c = 'x' || c = 'u' || c = 'U' then return ← hexEscape c
  if c = 'p' || c = 'P' then return ← unicodeEscape start (c = 'P')
  if ['d', 's', 'w', 'D', 'S', 'W'].contains c then return ← perlClass start c
  let _ ← bump
  if isEscapable c then return .char c
  match c with
  | 'a' => return .char '\x07'
  | 'f' => return .char '\x0c'
  | 't' => return .char '\t'
  | 'n' => return .char '\n'
  | 'r' => return .char '\r'
  | 'v' => return .char '\x0b'
  | 'A' => return .look .start
  | 'z' => return .look .stop
  | 'b' =>
    if ← isCurrent '{' then
      match ← namedBoundary start with
      | some kind => wordLook kind
      | none => wordLook .boundary
    else wordLook .boundary
  | 'B' => wordLook .inside
  | '<' => wordLook .start
  | '>' => wordLook .stop
  | _ => fail .escapeUnknown (← since start)

end Fixtures.Regex.Parser
