import Fixtures.Generation.Plan

namespace Fixtures.Generation

structure KeyColumn where
  plan : KeyPlan
  taken : List String
  deriving DecidableEq, Repr

namespace KeyColumn

/-- The text of a row's key. A row with a null in its key has none. -/
def keyOf? (fields : List Nat) (values : List Value) : Option String :=
  (fields.mapM fun i => (values[i]?.filter fun v => !v.isNull).map Value.key).map
    (Text.joined "|")

def isTaken (c : KeyColumn) (values : List Value) : Bool :=
  (keyOf? c.plan.fields values).any c.taken.contains

def add (c : KeyColumn) (values : List Value) : KeyColumn :=
  { c with taken := (keyOf? c.plan.fields values).toList ++ c.taken }

end KeyColumn

structure KeyTracker where
  columns : List KeyColumn
  deriving DecidableEq, Repr

namespace KeyTracker

def ofKeys (keys : List KeyPlan) : KeyTracker :=
  ⟨keys.map fun k => ⟨k, []⟩⟩

def conflict? (t : KeyTracker) (values : List Value) : Option KeyPlan :=
  (t.columns.find? fun c => c.isTaken values).map KeyColumn.plan

def insert (t : KeyTracker) (values : List Value) : Except KeyPlan KeyTracker :=
  match t.conflict? values with
  | some key => .error key
  | none => .ok ⟨t.columns.map fun c => c.add values⟩

def size (t : KeyTracker) (column : Nat) : Nat :=
  match t.columns[column]? with
  | some c => c.taken.length
  | none => 0

def isEmpty (t : KeyTracker) : Bool :=
  t.columns.isEmpty

end KeyTracker

end Fixtures.Generation
