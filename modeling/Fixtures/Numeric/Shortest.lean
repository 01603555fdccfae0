import Fixtures.Numeric.Binary64

namespace Fixtures.Shortest

structure Decimal where
  digits : Nat
  exponent : Int
  deriving DecidableEq, Repr

inductive Tie
  | up
  | even
  deriving DecidableEq, Repr

def digitsOf (n : Nat) : List Char :=
  Nat.toDigits 10 n

/-- Least `j` with `den ≤ num * 10 ^ j`, for a fraction below one. -/
def leadingZeros (num den : Nat) : Nat → Nat
  | 0 => 0
  | fuel + 1 => if den ≤ num then 0 else leadingZeros (num * 10) den fuel + 1

/-- The exponent `e` with `10 ^ (e - 1) ≤ num / den < 10 ^ e`, where it exceeds `-400`. -/
def magnitude (num den : Nat) : Int :=
  if den ≤ num then (digitsOf (num / den)).length
  else 1 - (leadingZeros num den 400 : Int)

/-- A positive number in quarters of its last place: `4 · mantissa` over `den`, times `scale`. -/
structure Scaled where
  value : Nat
  below : Nat
  above : Nat
  unit : Nat
  closed : Bool

/-- The number `mantissa · 2 ^ exponent` and its half gaps, measured so that `10 ^ place` is
`unit`. -/
def scaled (mantissa : Nat) (exponent place : Int) : Scaled :=
  let q := exponent - 2
  let up := twoTo q.toNat
  let down := twoTo (-q).toNat
  let tens := tenTo place.toNat
  let tenths := tenTo (-place).toNat
  { value := 4 * mantissa * up * tenths
    below := (if mantissa = twoTo 52 && -1074 < exponent then 1 else 2) * up * tenths
    above := 2 * up * tenths
    unit := down * tens
    closed := mantissa % 2 = 0 }

/-- Multiples of `unit` next to the value, kept when they round to it. -/
def Scaled.candidates (s : Scaled) : Option Nat × Option Nat :=
  let low := s.value / s.unit
  let lowGap := s.value - low * s.unit
  let high := low + 1
  let highGap := high * s.unit - s.value
  let within (gap limit : Nat) : Bool := if s.closed then gap ≤ limit else gap < limit
  (if within lowGap s.below then some low else none,
    if within highGap s.above then some high else none)

def Scaled.pick (tie : Tie) (s : Scaled) : Option Nat :=
  match s.candidates with
  | (none, none) => none
  | (some low, none) => some low
  | (none, some high) => some high
  | (some low, some high) =>
    let lowGap := s.value - low * s.unit
    let highGap := high * s.unit - s.value
    if lowGap < highGap then some low
    else if highGap < lowGap then some high
    else match tie with
      | .up => some high
      | .even => if low % 2 = 0 then some low else some high

/-- First hit among the grids with `count`, `count + 1`, … digits. -/
def search (tie : Tie) (mantissa : Nat) (exponent top : Int) : Nat → Nat → Decimal
  | _, 0 => ⟨0, 0⟩
  | count, fuel + 1 =>
    let place := top - count
    match (scaled mantissa exponent place).pick tie with
    | some digits => ⟨digits, place⟩
    | none => search tie mantissa exponent top (count + 1) fuel

def stripZeros (digits : Nat) (exponent : Int) : Nat → Decimal
  | 0 => ⟨digits, exponent⟩
  | fuel + 1 =>
    if digits ≠ 0 && digits % 10 = 0 then stripZeros (digits / 10) (exponent + 1) fuel
    else ⟨digits, exponent⟩

/-- Shortest decimal that reads back as `mantissa · 2 ^ exponent`. -/
def shortest (tie : Tie) (mantissa : Nat) (exponent : Int) : Decimal :=
  if mantissa = 0 then ⟨0, 0⟩
  else
    let num := mantissa * twoTo exponent.toNat
    let den := twoTo (-exponent).toNat
    let found := search tie mantissa exponent (magnitude num den) 1 20
    stripZeros found.digits found.exponent 20

end Fixtures.Shortest
