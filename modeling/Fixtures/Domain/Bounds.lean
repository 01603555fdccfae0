namespace Fixtures

structure Bounds (α : Type) where
  min : Option α
  max : Option α
  deriving DecidableEq, Repr

namespace Bounds

variable {α : Type}

def unbounded : Bounds α := ⟨none, none⟩

instance : Inhabited (Bounds α) := ⟨unbounded⟩

variable [LT α] [DecidableLT α]

def raise (current other : Option α) : Option α :=
  match other, current with
  | none, _ => current
  | some a, none => some a
  | some a, some b => if b < a then some a else some b

def lower (current other : Option α) : Option α :=
  match other, current with
  | none, _ => current
  | some a, none => some a
  | some a, some b => if a < b then some a else some b

def tighten (b other : Bounds α) : Bounds α :=
  ⟨raise b.min other.min, lower b.max other.max⟩

def isEmpty (b : Bounds α) : Bool :=
  match b.min, b.max with
  | some low, some high => high < low
  | _, _ => false

variable [LE α] [DecidableLE α]

def contains (b : Bounds α) (a : α) : Bool :=
  b.min.all (fun low => low ≤ a) && b.max.all (fun high => a ≤ high)

end Bounds

end Fixtures
