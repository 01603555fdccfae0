import Fixtures.Calendar.Date
import Fixtures.Numeric.Decimal
import Fixtures.Toml.Basic
import Fixtures.Toml.Reader.Blank

namespace Fixtures.Toml.Reader

open Text

def digitRun (isDigit : Char → Bool) : List Char → List Char × List Char
  | '_' :: d :: cs =>
    if isDigit d then
      let rest := digitRun isDigit cs
      (d :: rest.1, rest.2)
    else ([], '_' :: d :: cs)
  | d :: cs =>
    if isDigit d then
      let rest := digitRun isDigit cs
      (d :: rest.1, rest.2)
    else ([], d :: cs)
  | [] => ([], [])

def digits (isDigit : Char → Bool) : Read (List Char) := fun cs =>
  match cs with
  | '_' :: _ => none
  | cs =>
    let run := digitRun isDigit cs
    if run.1.isEmpty then none else some run

def integerWithin (n : Int) : Option Toml :=
  if -9223372036854775808 ≤ n ∧ n ≤ 9223372036854775807 then some (.integer n) else none

def based (base : Nat) (cs : List Char) : Option (Toml × List Char) := do
  let isDigit (c : Char) : Bool := (hexDigit? c).any fun d => decide (d < base)
  let (ds, rest) ← digits isDigit cs
  let values ← ds.mapM hexDigit?
  let n : Nat := values.foldl (fun n d => n * base + d) 0
  return (← integerWithin n, rest)

def sign : List Char → Bool × List Char
  | '-' :: cs => (true, cs)
  | '+' :: cs => (false, cs)
  | cs => (false, cs)

/-- A decimal integer without sign: zero, or digits that do not begin with zero. -/
def wholePart : Read (List Char)
  | '0' :: cs => some (['0'], cs)
  | cs => digits Char.isDigit cs

def fraction : List Char → Option (Option (List Char) × List Char)
  | '.' :: cs => (digits Char.isDigit cs).map fun r => (some r.1, r.2)
  | cs => some (none, cs)

def signText (negative : Bool) : List Char :=
  if negative then ['-'] else []

def exponent : List Char → Option (Option (List Char) × List Char)
  | 'e' :: cs => signed cs
  | 'E' :: cs => signed cs
  | cs => some (none, cs)
where
  signed (cs : List Char) : Option (Option (List Char) × List Char) :=
    let (negative, cs) := sign cs
    (digits Char.isDigit cs).map fun r => (some (signText negative ++ r.1), r.2)

def partText (mark : Char) : Option (List Char) → List Char
  | some ds => mark :: ds
  | none => []

def decimal : Read Toml := fun cs => do
  let (negative, cs) := sign cs
  let (whole, cs) ← wholePart cs
  let (part, cs) ← fraction cs
  let (power, cs) ← exponent cs
  if part.isNone && power.isNone then
    let n : Int := natOfDigits whole
    return (← integerWithin (if negative then -n else n), cs)
  else
    let written := signText negative ++ whole ++ partText '.' part ++ partText 'e' power
    let x ← Decimal.read? (String.ofList written)
    if x.isInf && !negative then none else some (.float x, cs)

def special (negative : Bool) : Read Toml
  | 'i' :: 'n' :: 'f' :: cs =>
    let infinity : Float := 1.0 / 0.0
    some (.float (if negative then -infinity else infinity), cs)
  | 'n' :: 'a' :: 'n' :: cs => some (.float (0.0 / 0.0), cs)
  | _ => none

def fixed (width low high : Nat) : Read Nat := fun cs =>
  let ds := cs.take width
  let n := natOfDigits ds
  if ds.length = width && ds.all Char.isDigit && low ≤ n && n ≤ high then some (n, cs.drop width)
  else none

def mark (accepts : Char → Bool) : List Char → Option (List Char)
  | c :: cs => if accepts c then some cs else none
  | [] => none

def fullDate (cs : List Char) : Option (List Char) := do
  let (year, cs) ← fixed 4 0 9999 cs
  let cs ← mark (· = '-') cs
  let (month, cs) ← fixed 2 1 12 cs
  let cs ← mark (· = '-') cs
  let (_, cs) ← fixed 2 1 (Date.daysInMonth year month) cs
  return cs

def secondFraction : List Char → Option (List Char)
  | '.' :: cs =>
    let rest := cs.dropWhile Char.isDigit
    if rest.length < cs.length then some rest else none
  | cs => some cs

def fullTime (cs : List Char) : Option (List Char) := do
  let (_, cs) ← fixed 2 0 23 cs
  let cs ← mark (· = ':') cs
  let (_, cs) ← fixed 2 0 59 cs
  let cs ← mark (· = ':') cs
  let (_, cs) ← fixed 2 0 60 cs
  secondFraction cs

def skipOffset (cs : List Char) : Option (List Char) :=
  match cs with
  | [] => some []
  | c :: rest =>
    if c = 'Z' || c = 'z' then some rest
    else if c = '+' || c = '-' then do
      let (_, rest) ← fixed 2 0 23 rest
      let rest ← mark (· = ':') rest
      let (_, rest) ← fixed 2 0 59 rest
      return rest
    else some (c :: rest)

def dateTime (cs : List Char) : Option (Toml × List Char) :=
  match fullDate cs with
  | none => (fullTime cs).map fun rest => (.dateTime, rest)
  | some rest =>
    match (mark (fun c => c = 'T' || c = 't' || c = ' ') rest).bind fullTime with
    | some later => (skipOffset later).map fun rest => (.dateTime, rest)
    | none => some (.dateTime, rest)

def looksDated : List Char → Bool
  | a :: b :: ':' :: _ => a.isDigit && b.isDigit
  | a :: b :: c :: d :: '-' :: _ => a.isDigit && b.isDigit && c.isDigit && d.isDigit
  | _ => false

def number (cs : List Char) : Option (Toml × List Char) :=
  if looksDated cs then dateTime cs
  else
    match cs with
    | '0' :: 'x' :: cs => based 16 cs
    | '0' :: 'o' :: cs => based 8 cs
    | '0' :: 'b' :: cs => based 2 cs
    | cs =>
      let (negative, rest) := sign cs
      special negative rest <|> decimal cs

end Fixtures.Toml.Reader
