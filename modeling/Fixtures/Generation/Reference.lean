import Fixtures.Generation.Plan

namespace Fixtures.Generation

/-- The keys of a table in the order of its rows, with the running sums of their weights. -/
structure ReferenceSet where
  tuples : List (List Value)
  zipf : List Float
  normal : List Float

namespace ReferenceSet

def runningSums (total : Float) : List Float → List Float
  | [] => []
  | x :: xs => (total + x) :: runningSums (total + x) xs

def ranks (count : Nat) : List Float :=
  (List.range count).map fun i => Float.ofNat (i + 1)

def zipfWeights (count : Nat) : List Float :=
  (ranks count).map fun rank => 1.0 / rank

def normalWeights (count : Nat) : List Float :=
  let middle := (Float.ofNat count + 1.0) / 2.0
  (ranks count).map fun rank => 1.0 / (1.0 + (rank - middle).abs)

def ofTuples (tuples : List (List Value)) : ReferenceSet :=
  ⟨tuples, runningSums 0.0 (zipfWeights tuples.length),
    runningSums 0.0 (normalWeights tuples.length)⟩

def weightedIndex (sums : List Float) : Random.Draw Nat := do
  let total := sums.getLast?.getD 0.0
  let target := (← Random.unitFloat) * total
  return min (sums.takeWhile fun bound => bound ≤ target).length (sums.length - 1)

def index (s : ReferenceSet) : Distribution → Random.Draw Nat
  | .uniform => Random.index s.tuples.length
  | .zipf => weightedIndex s.zipf
  | .normal => weightedIndex s.normal

def draw (s : ReferenceSet) (d : Distribution) : Random.Draw (Option (List Value)) := do
  if s.tuples.isEmpty then return none
  else return s.tuples[← s.index d]?

end ReferenceSet

/-- Keys of finished tables by the table and the list of fields. -/
structure References where
  sets : List ((String × List String) × ReferenceSet) := []

namespace References

def set? (r : References) (table : String) (fields : List String) : Option ReferenceSet :=
  (r.sets.find? fun s => s.1 = (table, fields)).map Prod.snd

/-- Keeps the keys of a table, in place of those that were kept for the same fields. Keys with a
null are left out. -/
def register (r : References) (table : String) (fields : List String)
    (tuples : List (List Value)) : References :=
  let complete := tuples.filter fun tuple => !tuple.any Value.isNull
  ⟨((table, fields), .ofTuples complete) :: r.sets.filter fun s => s.1 ≠ (table, fields)⟩

def keyCount (r : References) (table : String) (fields : List String) : Nat :=
  match r.set? table fields with
  | some s => s.tuples.length
  | none => 0

def resolve (r : References) (table : String) (k : ForeignKeyPlan) :
    Random.Draw (Except GenerationError (List Value)) := do
  let drawn ←
    match r.set? k.targetTable k.targetFields with
    | some s => s.draw k.distribution
    | none => pure none
  match drawn with
  | some tuple => return .ok tuple
  | none => return .error (.emptyReferenceSet table k.targetTable)

end References

end Fixtures.Generation
