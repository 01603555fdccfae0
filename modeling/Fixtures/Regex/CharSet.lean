import Fixtures.Text.Table.CaseFolding

namespace Fixtures.Regex

/-- Ranges of character numbers, both ends included. -/
structure CharSet where
  ranges : List (Nat × Nat)
  deriving DecidableEq, Repr

namespace CharSet

def rank (n : Nat) : Nat :=
  if n < 0xD800 then n else if n < 0xE000 then 0xD800 else n - 0x800

def unrank (n : Nat) : Char :=
  Char.ofNat (if n < 0xD800 then n else n + 0x800)

def top : Nat := 0x10F7FF

def empty : CharSet := ⟨[]⟩

/-- Adds a range to sorted ranges, joining those that meet it. -/
def insertRange (low high : Nat) : List (Nat × Nat) → List (Nat × Nat)
  | [] => [(low, high)]
  | (a, b) :: rest =>
    if high + 1 < a then (low, high) :: (a, b) :: rest
    else if b + 1 < low then (a, b) :: insertRange low high rest
    else insertRange (min low a) (max high b) rest

/-- The set of the ranges of code points. Ranges are inserted from the last, which is cheap when
they ascend. -/
def ofCodePoints (ranges : List (Nat × Nat)) : CharSet :=
  ⟨ranges.foldr (fun r sorted => insertRange (rank r.1) (rank r.2) sorted) []⟩

def single (c : Char) : CharSet :=
  ⟨[(rank c.toNat, rank c.toNat)]⟩

def range (low high : Char) : CharSet :=
  ⟨[(rank low.toNat, rank high.toNat)]⟩

def contains (s : CharSet) (c : Char) : Bool :=
  let n := rank c.toNat
  s.ranges.any fun r => r.1 ≤ n && n ≤ r.2

def isEmpty (s : CharSet) : Bool :=
  s.ranges.isEmpty

def size (s : CharSet) : Nat :=
  s.ranges.foldl (fun n r => n + (r.2 + 1 - r.1)) 0

def nth (s : CharSet) (k : Nat) : Char :=
  go k s.ranges
where
  go (k : Nat) : List (Nat × Nat) → Char
    | [] => unrank 0
    | (a, b) :: rest => if a + k ≤ b then unrank (a + k) else go (k - (b + 1 - a)) rest

def single? (s : CharSet) : Option Char :=
  match s.ranges with
  | [(a, b)] => if a = b then some (unrank a) else none
  | _ => none

def union (s t : CharSet) : CharSet :=
  ⟨s.ranges.foldr (fun r sorted => insertRange r.1 r.2 sorted) t.ranges⟩

def gaps (start : Nat) : List (Nat × Nat) → List (Nat × Nat)
  | [] => if start ≤ top then [(start, top)] else []
  | (a, b) :: rest => if start < a then (start, a - 1) :: gaps (b + 1) rest else gaps (b + 1) rest

def complement (s : CharSet) : CharSet :=
  ⟨gaps 0 s.ranges⟩

def inter (s t : CharSet) : CharSet :=
  (s.complement.union t.complement).complement

def diff (s t : CharSet) : CharSet :=
  s.inter t.complement

def symmDiff (s t : CharSet) : CharSet :=
  (s.union t).diff (s.inter t)

def isAscii (s : CharSet) : Bool :=
  s.ranges.all fun r => r.2 < 128

def foldCase (s : CharSet) : CharSet :=
  Text.CaseFolding.orbits.foldl
    (fun folded orbit =>
      if orbit.any (fun n => s.contains (Char.ofNat n)) then
        orbit.foldl (fun folded n => folded.union (single (Char.ofNat n))) folded
      else folded) s

end CharSet

end Fixtures.Regex
