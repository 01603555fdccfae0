import Fixtures.Json.Basic
import Fixtures.Numeric.Decimal

namespace Fixtures.Json.Reader

open Fixtures.Text

def isBlank (c : Char) : Bool :=
  c = ' ' || c = '\n' || c = '\t' || c = '\r'

def skipBlanks (cs : List Char) : List Char :=
  cs.dropWhile isBlank

def literal {α : Type} (word : List Char) (value : α) (cs : List Char) : Option (α × List Char) :=
  if word.isPrefixOf cs then some (value, cs.drop word.length) else none

def unit? : List Char → Option (Nat × List Char)
  | a :: b :: c :: d :: rest => do
    let a ← hexDigit? a
    let b ← hexDigit? b
    let c ← hexDigit? c
    let d ← hexDigit? d
    return (((a * 16 + b) * 16 + c) * 16 + d, rest)
  | _ => none

/-- The character of a `\u` escape after its `\u`; a high surrogate needs its low one. -/
def unicodeEscape (cs : List Char) : Option (Char × List Char) := do
  let (high, rest) ← unit? cs
  if 0xDC00 ≤ high ∧ high < 0xE000 then none
  else if 0xD800 ≤ high ∧ high < 0xDC00 then
    match rest with
    | '\\' :: 'u' :: rest =>
      let (low, rest) ← unit? rest
      if 0xDC00 ≤ low ∧ low < 0xE000 then
        some (Char.ofNat (0x10000 + (high - 0xD800) * 0x400 + (low - 0xDC00)), rest)
      else none
    | _ => none
  else some (Char.ofNat high, rest)

def escape : List Char → Option (Char × List Char)
  | '"' :: cs => some ('"', cs)
  | '\\' :: cs => some ('\\', cs)
  | '/' :: cs => some ('/', cs)
  | 'b' :: cs => some ('\x08', cs)
  | 'f' :: cs => some ('\x0c', cs)
  | 'n' :: cs => some ('\n', cs)
  | 'r' :: cs => some ('\r', cs)
  | 't' :: cs => some ('\t', cs)
  | 'u' :: cs => unicodeEscape cs
  | _ => none

/-- The rest of a string after its opening quote; `done` holds what is read, last first. -/
def stringTail : Nat → List Char → List Char → Option (String × List Char)
  | 0, _, _ => none
  | _ + 1, _, [] => none
  | _ + 1, done, '"' :: cs => some (String.ofList done.reverse, cs)
  | fuel + 1, done, '\\' :: cs => do
    let (c, cs) ← escape cs
    stringTail fuel (c :: done) cs
  | fuel + 1, done, c :: cs =>
    if c.toNat < 32 then none else stringTail fuel (c :: done) cs

def string (cs : List Char) : Option (String × List Char) :=
  stringTail (cs.length + 1) [] cs

/-- Takes digits while they fit 64 bits, and says how many were taken. -/
def significand (start : Nat) : List Char → Nat × Nat
  | [] => (start, 0)
  | c :: cs =>
    let next := start * 10 + (c.toNat - 48)
    if next < twoTo 64 then
      let (value, count) := significand next cs
      (value, count + 1)
    else (start, 0)

/-- Applies a decimal exponent in steps that stay within the powers of ten that are finite. -/
def scale : Nat → Float → Int → Option Float
  | 0, x, _ => some x
  | fuel + 1, x, exponent =>
    if exponent.natAbs ≤ 308 then
      let power := Decimal.nearest 1 exponent.natAbs
      if 0 ≤ exponent then
        let y := x * power
        if y.isInf then none else some y
      else some (x / power)
    else if x == 0 then some x
    else if 0 ≤ exponent then none
    else scale fuel (x / 1e308) (exponent + 308)

/-- A positive number from its digits; an exponent that makes it infinite is refused. -/
def floatOf (digits : Nat) (exponent : Int) : Option Float :=
  scale 10 (Float.ofInt digits) exponent

def exponentPart : List Char → Option (Option Int × List Char)
  | [] => some (none, [])
  | c :: cs =>
    if c = 'e' || c = 'E' then
      let (negative, cs) := Decimal.signOf cs
      let (digits, rest) := Decimal.spanDigits cs
      if digits.isEmpty then none
      else
        let n : Int := natOfDigits digits
        some (some (if negative then -n else n), rest)
    else some (none, c :: cs)

def fractionPart : List Char → Option (Option (List Char) × List Char)
  | '.' :: cs =>
    let (digits, rest) := Decimal.spanDigits cs
    if digits.isEmpty then none else some (some digits, rest)
  | cs => some (none, cs)

def numberOf (negative : Bool) (whole : List Char) (fraction : Option (List Char))
    (exponent : Option Int) : Option Json :=
  let (head, taken) := significand 0 whole
  let signed (x : Float) : Json := .float (if negative then -x else x)
  if fraction.isNone && exponent.isNone && taken = whole.length then
    if negative then
      if head = 0 || twoTo 63 < head then some (signed (Float.ofInt head))
      else some (.int (-(head : Int)))
    else some (.int head)
  else
    let dropped := whole.length - taken
    let (digits, places) :=
      match fraction with
      | none => (head, 0)
      | some ds => significand head ds
    (floatOf digits (exponent.getD 0 + dropped - places)).map signed

def number (cs : List Char) : Option (Json × List Char) := do
  let (negative, cs) := match cs with
    | '-' :: cs => (true, cs)
    | cs => (false, cs)
  let (whole, cs) := Decimal.spanDigits cs
  if whole.isEmpty then none
  if whole.head? = some '0' && whole.length ≠ 1 then none
  let (fraction, cs) ← fractionPart cs
  let (exponent, cs) ← exponentPart cs
  let value ← numberOf negative whole fraction exponent
  return (value, cs)

mutual

def value : Nat → Nat → List Char → Option (Json × List Char)
  | 0, _, _ => none
  | fuel + 1, depth, cs =>
    match skipBlanks cs with
    | [] => none
    | '"' :: cs => (string cs).map fun (s, cs) => (.string s, cs)
    | 'n' :: cs => literal ['u', 'l', 'l'] .null cs
    | 't' :: cs => literal ['r', 'u', 'e'] (.bool true) cs
    | 'f' :: cs => literal ['a', 'l', 's', 'e'] (.bool false) cs
    | '[' :: cs =>
      match depth with
      | 0 => none
      | depth + 1 =>
        match skipBlanks cs with
        | ']' :: cs => some (.array [], cs)
        | cs => (elements fuel depth cs).map fun (items, cs) => (.array items, cs)
    | '{' :: cs =>
      match depth with
      | 0 => none
      | depth + 1 =>
        match skipBlanks cs with
        | '}' :: cs => some (.object [], cs)
        | cs => (members fuel depth cs).map fun (ms, cs) => (ofMembers ms, cs)
    | c :: cs => number (c :: cs)

/-- One or more values with commas between them, up to the closing bracket. -/
def elements : Nat → Nat → List Char → Option (List Json × List Char)
  | 0, _, _ => none
  | fuel + 1, depth, cs => do
    let (item, cs) ← value fuel depth cs
    match skipBlanks cs with
    | ']' :: cs => some ([item], cs)
    | ',' :: cs =>
      let (items, cs) ← elements fuel depth cs
      some (item :: items, cs)
    | _ => none

/-- One or more members with commas between them, up to the closing brace. -/
def members : Nat → Nat → List Char → Option (List (String × Json) × List Char)
  | 0, _, _ => none
  | fuel + 1, depth, cs =>
    match skipBlanks cs with
    | '"' :: cs => do
      let (key, cs) ← string cs
      match skipBlanks cs with
      | ':' :: cs =>
        let (item, cs) ← value fuel depth cs
        match skipBlanks cs with
        | '}' :: cs => some ([(key, item)], cs)
        | ',' :: cs =>
          let (items, cs) ← members fuel depth cs
          some ((key, item) :: items, cs)
        | _ => none
      | _ => none
    | _ => none

end

end Fixtures.Json.Reader

namespace Fixtures.Json

def parse? (text : String) : Option Json := do
  let cs := text.toList
  let (value, rest) ← Reader.value (2 * cs.length + 2) 127 cs
  if (Reader.skipBlanks rest).isEmpty then some value else none

end Fixtures.Json
