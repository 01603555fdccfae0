import Fixtures.Numeric.Basic

namespace Fixtures.Binary64

structure Parts where
  negative : Bool
  mantissa : Nat
  exponent : Int
  deriving DecidableEq, Repr

/-- The parts of a finite number. Infinities and NaN have none. -/
def parts? (x : Float) : Option Parts :=
  let bits : Nat := x.toBits.toNat
  let negative := bits / twoTo 63 == 1
  let field : Nat := bits / twoTo 52 % twoTo 11
  let fraction := bits % twoTo 52
  if field = 2047 then none
  else if field = 0 then some ⟨negative, fraction, -1074⟩
  else some ⟨negative, fraction + twoTo 52, (field : Int) - 1075⟩

namespace Parts

def signed (p : Parts) : Int :=
  if p.negative then -(p.mantissa : Int) else p.mantissa

def floor (p : Parts) : Int :=
  if 0 ≤ p.exponent then p.signed * twoTo p.exponent.toNat
  else p.signed / twoTo (-p.exponent).toNat

def ceil (p : Parts) : Int :=
  if 0 ≤ p.exponent then p.signed * twoTo p.exponent.toNat
  else -(-p.signed / twoTo (-p.exponent).toNat)

def trunc (p : Parts) : Int :=
  if p.negative then p.ceil else p.floor

/-- Nearest integer; a half goes away from zero. -/
def round (p : Parts) : Int :=
  if 0 ≤ p.exponent then p.signed * twoTo p.exponent.toNat
  else
    let scale := twoTo (-p.exponent).toNat
    let magnitude : Int := (2 * p.mantissa + scale) / (2 * scale)
    if p.negative then -magnitude else magnitude

end Parts

/-- Rounds a finite number to an integer by `pick`. A zero result keeps the sign of the number. -/
def toIntegral (pick : Parts → Int) (x : Float) : Float :=
  match parts? x with
  | none => x
  | some p =>
    let n := pick p
    if n = 0 && p.negative then -0.0 else Float.ofInt n

def floor (x : Float) : Float := toIntegral Parts.floor x

def ceil (x : Float) : Float := toIntegral Parts.ceil x

def round (x : Float) : Float := toIntegral Parts.round x

def minInt64 : Int := -9223372036854775808
def maxInt64 : Int := 9223372036854775807

def clampInt64 (n : Int) : Int :=
  max minInt64 (min maxInt64 n)

def isInt64 (n : Int) : Bool :=
  minInt64 ≤ n && n ≤ maxInt64

/-- Integer part, held within the 64-bit signed integers. NaN goes to zero. -/
def toInt64 (x : Float) : Int :=
  match parts? x with
  | some p => clampInt64 p.trunc
  | none => if x.isNaN then 0 else if x < 0 then minInt64 else maxInt64

def compare? (x y : Float) : Option Ordering :=
  if x < y then some .lt
  else if y < x then some .gt
  else if x == y then some .eq
  else none

end Fixtures.Binary64
