import Fixtures.Regex.CharSet
import Fixtures.Text.CharClass
import Fixtures.Text.Table.Script

namespace Fixtures.Regex.UnicodeClass

open Fixtures.Text

def ofTables (tables : List CodePoints) : CharSet :=
  tables.foldl (fun s t => s.union (.ofCodePoints t.ranges)) .empty

open GeneralCategory in
/-- Word characters: letters, marks, digits, connecting punctuation and joiners. -/
def word : CharSet :=
  ofTables [Letter.alphabetic, mn, mc, me, nd, pc, ⟨[(0x200C, 0x200D)]⟩]

def digit : CharSet := ofTables [GeneralCategory.nd]

def space : CharSet := ofTables [whiteSpace]

def asciiWord : CharSet :=
  .ofCodePoints [(0x30, 0x39), (0x41, 0x5A), (0x5F, 0x5F), (0x61, 0x7A)]

def asciiDigit : CharSet := .ofCodePoints [(0x30, 0x39)]

def asciiSpace : CharSet := .ofCodePoints [(0x9, 0xD), (0x20, 0x20)]

def ascii? (name : String) : Option CharSet :=
  match name with
  | "alnum" => some (.ofCodePoints [(0x30, 0x39), (0x41, 0x5A), (0x61, 0x7A)])
  | "alpha" => some (.ofCodePoints [(0x41, 0x5A), (0x61, 0x7A)])
  | "ascii" => some (.ofCodePoints [(0, 0x7F)])
  | "blank" => some (.ofCodePoints [(0x9, 0x9), (0x20, 0x20)])
  | "cntrl" => some (.ofCodePoints [(0, 0x1F), (0x7F, 0x7F)])
  | "digit" => some asciiDigit
  | "graph" => some (.ofCodePoints [(0x21, 0x7E)])
  | "lower" => some (.ofCodePoints [(0x61, 0x7A)])
  | "print" => some (.ofCodePoints [(0x20, 0x7E)])
  | "punct" => some (.ofCodePoints [(0x21, 0x2F), (0x3A, 0x40), (0x5B, 0x60), (0x7B, 0x7E)])
  | "space" => some asciiSpace
  | "upper" => some (.ofCodePoints [(0x41, 0x5A)])
  | "word" => some asciiWord
  | "xdigit" => some (.ofCodePoints [(0x30, 0x39), (0x41, 0x46), (0x61, 0x66)])
  | _ => none

/-- A name without case, blanks, underscores, hyphens and a leading `is`. -/
def loose (name : String) : String :=
  let cs := (lowerAscii name).toList.filter fun c =>
    c ≠ ' ' && c ≠ '_' && c ≠ '-' && c.toNat < 128
  match cs with
  | 'i' :: 's' :: rest => if rest = ['c'] then "isc" else String.ofList rest
  | cs => String.ofList cs

open GeneralCategory in
def categoryGroup? (name : String) : Option CharSet :=
  match name with
  | "l" | "letter" => some (ofTables [lu, ll, lt, lm, lo])
  | "lc" | "casedletter" => some (ofTables [lu, ll, lt])
  | "m" | "mark" | "combiningmark" => some (ofTables [mn, mc, me])
  | "n" | "number" => some (ofTables [nd, nl, no])
  | "p" | "punctuation" | "punct" => some (ofTables [pc, pd, ps, pe, pi, pf, po])
  | "s" | "symbol" => some (ofTables [sm, sc, sk, so])
  | "z" | "separator" => some (ofTables [zs, zl, zp])
  | "digit" => some digit
  | "cntrl" => some (ofTables [cc])
  | _ => none

def assigned : CharSet :=
  ofTables (GeneralCategory.named.map fun e => e.2.2)

open GeneralCategory in
def category? (name : String) : Option CharSet :=
  match categoryGroup? name with
  | some s => some s
  | none =>
    match name with
    | "any" => some (CharSet.empty.complement)
    | "ascii" => some (.ofCodePoints [(0, 0x7F)])
    | "assigned" => some assigned
    | "cn" | "unassigned" => some assigned.complement
    | "c" | "other" => some (assigned.complement.union (ofTables [cc, cf, co]))
    | name =>
      (named.find? fun e => e.1 = name || e.2.1 = name).map fun e => ofTables [e.2.2]

def script? (name : String) : Option CharSet :=
  (Script.named.find? fun e => e.1 = name || e.2.1 = name).map fun e => ofTables [e.2.2]

def property? (name : String) : Option CharSet :=
  match name with
  | "alphabetic" | "alpha" => some (ofTables [Letter.alphabetic])
  | "lowercase" | "lower" => some (ofTables [Letter.lowercase])
  | "uppercase" | "upper" => some (ofTables [Letter.uppercase])
  | "whitespace" | "space" | "wspace" => some space
  | _ => none

def named? (name : String) : Option CharSet :=
  let name := loose name
  property? name <|> category? name <|> script? name

/-- Why a class with a property and a value does not exist. -/
inductive Missing
  | property
  | value
  deriving DecidableEq, Repr

def valued (property value : String) : Except Missing CharSet :=
  let value := loose value
  match loose property with
  | "generalcategory" | "gc" | "category" =>
    match category? value with
    | some s => .ok s
    | none => .error .value
  | "script" | "sc" | "scriptextensions" | "scx" =>
    match script? value with
    | some s => .ok s
    | none => .error .value
  | _ => .error .property

end Fixtures.Regex.UnicodeClass
