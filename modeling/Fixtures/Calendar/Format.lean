import Fixtures.Calendar.Timestamp
import Fixtures.Text.CharClass

namespace Fixtures.Calendar

open Fixtures.Text

def padded (width n : Nat) : String :=
  padLeft width '0' (toString n)

def yearText (year : Int) : String :=
  if 0 ≤ year ∧ year ≤ 9999 then padded 4 year.toNat
  else (if year < 0 then "-" else "+") ++ padded 4 year.natAbs

def dateText (d : Date) : String :=
  let c := d.civil
  yearText c.year ++ "-" ++ padded 2 c.month ++ "-" ++ padded 2 c.dayOfMonth

def timeText (t : Timestamp) : String :=
  padded 2 (t.second / 3600) ++ ":" ++ padded 2 (t.second / 60 % 60) ++ ":" ++
    padded 2 (t.second % 60 + t.leap.toNat)

def timestampText (t : Timestamp) : String :=
  dateText t.date ++ "T" ++ timeText t

def skipBlanks (cs : List Char) : List Char :=
  cs.dropWhile isBlank

/-- At least one and at most `width` digits. -/
def number? (width : Nat) (cs : List Char) : Option (Nat × List Char) :=
  let digits := (cs.take width).takeWhile Char.isDigit
  if digits.isEmpty then none else some (natOfDigits digits, cs.drop digits.length)

def field? (cs : List Char) : Option (Nat × List Char) :=
  number? 2 (skipBlanks cs)

/-- A year after blanks: up to four digits, or a sign and any number of them. -/
def year? (cs : List Char) : Option (Int × List Char) :=
  match skipBlanks cs with
  | '-' :: cs => (number? cs.length cs).map fun (n, cs) => (-(n : Int), cs)
  | '+' :: cs => (number? cs.length cs).map fun (n, cs) => ((n : Int), cs)
  | cs => (number? 4 cs).map fun (n, cs) => ((n : Int), cs)

def mark? (c : Char) : List Char → Option (List Char)
  | [] => none
  | d :: cs => if d = c then some cs else none

def civil? (cs : List Char) : Option (Date.Civil × List Char) := do
  let (year, cs) ← year? cs
  let cs ← mark? '-' cs
  let (month, cs) ← field? cs
  let cs ← mark? '-' cs
  let (day, cs) ← field? cs
  return (⟨year, month, day⟩, cs)

/-- Hours, minutes and seconds with colons between them, as a second of the day and whether it is a
leap second. -/
def time? (cs : List Char) : Option ((Nat × Bool) × List Char) := do
  let (hour, cs) ← field? cs
  let cs ← mark? ':' cs
  let (minute, cs) ← field? cs
  let cs ← mark? ':' cs
  let (second, cs) ← field? cs
  if 23 < hour || 59 < minute || 60 < second then none
  else return ((hour * 3600 + minute * 60 + min second 59, second = 60), cs)

def parseDate? (s : String) : Option Date := do
  let (c, rest) ← civil? s.toList
  if rest.isEmpty then Date.ofCivil? c else none

/-- A date with blanks anywhere between its parts and at its end. -/
def parseLooseDate? (s : String) : Option Date := do
  let (year, cs) ← year? s.toList
  let cs ← mark? '-' (skipBlanks cs)
  let (month, cs) ← field? cs
  let cs ← mark? '-' (skipBlanks cs)
  let (day, cs) ← field? cs
  if (skipBlanks cs).isEmpty then Date.ofCivil? ⟨year, month, day⟩ else none

/-- A date and a time; `separate` reads what stands between them. -/
def parseDateTime? (separate : List Char → Option (List Char)) (s : String) :
    Option Timestamp := do
  let (c, cs) ← civil? s.toList
  let cs ← separate cs
  let ((second, leap), rest) ← time? cs
  if !rest.isEmpty then none
  else
    let date ← Date.ofCivil? c
    if h : second < 86400 then return ⟨date, second, leap, h⟩ else none

/-- A date with a time after a `T` or after blanks, or a date alone, which is its midnight. -/
def parseTimestamp? (s : String) : Option Timestamp :=
  parseDateTime? (mark? 'T') s <|> parseDateTime? (some ∘ skipBlanks) s <|>
    (parseDate? s).map Timestamp.midnight

end Fixtures.Calendar
