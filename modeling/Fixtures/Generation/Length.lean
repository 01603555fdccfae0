import Fixtures.Domain.Bounds
import Fixtures.Random.Draw

namespace Fixtures.Generation

/-- Least and greatest length where a domain does not say. -/
structure LengthRange where
  least : Nat
  most : Nat
  deriving DecidableEq, Repr

namespace LengthRange

def text : LengthRange := ⟨5, 20⟩
def binary : LengthRange := ⟨8, 32⟩
def array : LengthRange := ⟨1, 5⟩

/-- The lengths that are drawn within bounds. They are no longer than the default or the lower
bound, however large the upper bound is. -/
def within (default : LengthRange) (b : Bounds Nat) : LengthRange :=
  let floor := b.min.getD default.least
  let ceiling := max floor default.most
  let most := (b.max.map (min · ceiling)).getD ceiling
  match b.min with
  | some least => ⟨least, max most least⟩
  | none => ⟨min floor most, most⟩

def draw (r : LengthRange) : Random.Draw Nat :=
  if r.most ≤ r.least then return r.least
  else do
    let n ← Random.between .bits64 r.least r.most
    return n.toNat

end LengthRange

end Fixtures.Generation
