import Fixtures.Text.Ascii

namespace Fixtures.Text

structure CodePoints where
  ranges : List (Nat × Nat)
  deriving DecidableEq, Repr

def natOfHex (ds : List Char) : Nat :=
  ds.foldl (fun n c => n * 16 + (hexDigit? c).getD 0) 0

def rangeOfText (cs : List Char) : Nat × Nat :=
  match cs.splitOn '-' with
  | [a, b] => (natOfHex a, natOfHex b)
  | _ => (natOfHex cs, natOfHex cs)

def wordsOf (lines : List String) : List (List Char) :=
  lines.flatMap fun line => (line.toList.splitOn ' ').filter fun w => !w.isEmpty

/-- Groups of code points, with points between the members of a group. -/
def orbitsOfText (lines : List String) : List (List Nat) :=
  (wordsOf lines).map fun w => (w.splitOn '.').map natOfHex

namespace CodePoints

def ofText (lines : List String) : CodePoints :=
  ⟨(wordsOf lines).map rangeOfText⟩

def contains (s : CodePoints) (n : Nat) : Bool :=
  s.ranges.any fun r => r.1 ≤ n && n ≤ r.2

end CodePoints

end Fixtures.Text
