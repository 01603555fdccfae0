import Fixtures.Encoding.Hex
import Fixtures.Numeric.Basic

namespace Fixtures.Uuid

open Fixtures.Text

/-- Puts hyphens after the first eight digits and after the next three groups of four. -/
def hyphenateChars (digits : List Char) : List Char :=
  digits.take 8 ++ '-' :: ((digits.drop 8).take 4) ++ '-' :: ((digits.drop 12).take 4) ++
    '-' :: ((digits.drop 16).take 4) ++ '-' :: digits.drop 20

def render (bytes : List UInt8) : String :=
  String.ofList (hyphenateChars (Hex.encodeChars bytes))

def ofNat (n : Nat) : List UInt8 :=
  (List.range 16).map fun i => UInt8.ofNat (n / twoTo (8 * (15 - i)))

/-- Marks random bytes as a random identifier: version four, variant one. -/
def markRandom (bytes : List UInt8) : List UInt8 :=
  bytes.zipIdx.map fun (b, i) =>
    if i = 6 then (b &&& 0x0f) ||| 0x40
    else if i = 8 then (b &&& 0x3f) ||| 0x80
    else b

def unhyphenate? (cs : List Char) : Option (List Char) :=
  if cs.length = 36 && [8, 13, 18, 23].all (fun i => cs[i]? = some '-') then
    some (cs.take 8 ++ (cs.drop 9).take 4 ++ (cs.drop 14).take 4 ++ (cs.drop 19).take 4 ++
      cs.drop 24)
  else none

def ofDigits? (cs : List Char) : Option (List UInt8) :=
  if cs.length = 32 then Hex.decodeChars cs else none

/-- The digits with their hyphens inside braces, after `urn:uuid:`, or alone. -/
def grouped (cs : List Char) : List Char :=
  match cs with
  | '{' :: rest => if rest.length = 37 && rest.getLast? = some '}' then rest.dropLast else cs
  | 'u' :: 'r' :: 'n' :: ':' :: 'u' :: 'u' :: 'i' :: 'd' :: ':' :: rest => rest
  | cs => cs

/-- Reads an identifier: thirty-two digits, or five groups, alone, in braces or after
`urn:uuid:`. -/
def parse? (s : String) : Option (List UInt8) :=
  let cs := s.toList
  if cs.length = 32 then ofDigits? cs
  else (unhyphenate? (grouped cs)).bind ofDigits?

end Fixtures.Uuid
