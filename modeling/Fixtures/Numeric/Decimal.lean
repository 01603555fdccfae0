import Fixtures.Numeric.Shortest
import Fixtures.Text.Ascii

namespace Fixtures.Decimal

open Fixtures.Text

/-- Digits with the decimal point after the first `point` of them. -/
def positional (digits : List Char) (point : Int) : List Char × List Char :=
  if point ≤ 0 then (['0'], List.replicate (-point).toNat '0' ++ digits)
  else
    let whole := point.toNat
    if digits.length ≤ whole then (digits ++ List.replicate (whole - digits.length) '0', [])
    else (digits.take whole, digits.drop whole)

def signText (negative : Bool) : String :=
  if negative then "-" else ""

/-- Shortest digits that read back, without an exponent however large or small the number is. -/
def plain (x : Float) : String :=
  match Binary64.parts? x with
  | none => if x.isNaN then "NaN" else if x < 0 then "-inf" else "inf"
  | some p =>
    let d := Shortest.shortest .up p.mantissa p.exponent
    let digits := Shortest.digitsOf d.digits
    let (whole, fraction) :=
      if p.mantissa = 0 then (['0'], []) else positional digits (digits.length + d.exponent)
    signText p.negative ++ String.ofList whole ++
      (if fraction.isEmpty then "" else "." ++ String.ofList fraction)

/-- Text of a finite number in a JSON document: positional between `1e-5` and `1e16`, always with
a point or an exponent. -/
def json? (x : Float) : Option String :=
  (Binary64.parts? x).map fun p =>
    let d := Shortest.shortest .even p.mantissa p.exponent
    let digits := Shortest.digitsOf d.digits
    let point : Int := if p.mantissa = 0 then 1 else digits.length + d.exponent
    if -5 < point && point ≤ 16 then
      let (whole, fraction) := positional digits point
      signText p.negative ++ String.ofList whole ++ "." ++
        (if fraction.isEmpty then "0" else String.ofList fraction)
    else
      let exponent := point - 1
      signText p.negative ++ String.ofList (digits.take 1) ++
        (if digits.length = 1 then "" else "." ++ String.ofList (digits.drop 1)) ++
        (if exponent < 0 then "e-" else "e+") ++ toString exponent.natAbs

def spanDigits (cs : List Char) : List Char × List Char :=
  (cs.takeWhile Char.isDigit, cs.dropWhile Char.isDigit)

def signOf : List Char → Bool × List Char
  | '-' :: cs => (true, cs)
  | '+' :: cs => (false, cs)
  | cs => (false, cs)

def nearest (digits : Nat) (exponent : Int) : Float :=
  Float.ofScientific digits (exponent < 0) exponent.natAbs

/-- An exponent part: nothing, or `e` with an optional sign and at least one digit. -/
def exponent? : List Char → Option Int
  | [] => some 0
  | c :: cs =>
    if c = 'e' || c = 'E' then
      let (negative, cs) := signOf cs
      let (digits, rest) := spanDigits cs
      if digits.isEmpty || !rest.isEmpty then none
      else
        let n : Int := natOfDigits digits
        some (if negative then -n else n)
    else none

/-- Digits with an optional fraction and exponent. One side of the point may be empty. -/
def unsigned? (cs : List Char) : Option Float :=
  let (whole, rest) := spanDigits cs
  let (fraction, rest) := match rest with
    | '.' :: rest => spanDigits rest
    | rest => ([], rest)
  if whole.isEmpty && fraction.isEmpty then none
  else do
    let e ← exponent? rest
    return nearest (natOfDigits (whole ++ fraction)) (e - fraction.length)

/-- Reads a number, with the words `inf`, `infinity` and `nan` in any case. -/
def read? (s : String) : Option Float :=
  let (negative, cs) := signOf s.toList
  let magnitude : Option Float :=
    match lowerAscii (String.ofList cs) with
    | "inf" | "infinity" => some (1.0 / 0.0)
    | "nan" => some (0.0 / 0.0)
    | _ => unsigned? cs
  magnitude.map fun x => if negative then -x else x

end Fixtures.Decimal
