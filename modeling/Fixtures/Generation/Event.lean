import Fixtures.Generation.Error
import Fixtures.Value.Record

namespace Fixtures.Generation

inductive Event
  | begin (table : String) (rows : Nat)
  | batch (table : String) (records : List Record)
  | finish (table : String)

namespace Event

/-- Hands events over one by one until one is refused, and gives what has become of the receiver. -/
def deliver {σ : Type} (receive : σ → Event → Except GenerationError σ) :
    σ → List Event → σ × Option GenerationError
  | s, [] => (s, none)
  | s, e :: es =>
    match receive s e with
    | .ok next => deliver receive next es
    | .error refusal => (s, some refusal)

end Event

/-- Tables with their rows, in the order in which they began. -/
abbrev Collected := List (String × List Record)

namespace Collected

def start (c : Collected) (table : String) : Collected :=
  c ++ [(table, [])]

/-- Adds rows to the last table if they are of that table, and else to a new one. -/
def addRows (table : String) (records : List Record) : Collected → Collected
  | [] => [(table, records)]
  | [(last, rows)] =>
    if last = table then [(last, rows ++ records)] else [(last, rows), (table, records)]
  | t :: ts => t :: addRows table records ts

def receive (c : Collected) : Event → Collected
  | .begin table _ => c.start table
  | .batch table records => addRows table records c
  | .finish _ => c

def ofEvents (events : List Event) : Collected :=
  events.foldl receive []

end Collected

end Fixtures.Generation
