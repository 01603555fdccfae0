import Fixtures.Generation.Length
import Fixtures.Model.Basic

namespace Fixtures.Generation.Batch

def maxBytes : Nat := 18446744073709551615

def limited (n : Nat) : Nat :=
  min n maxBytes

/-- Bytes of a value without what it refers to. -/
def slotBytes : Nat := 32

def payloadBytes (p : Primitive) (length : Bounds Nat) : Nat :=
  match p with
  | .string => (LengthRange.text.within length).most
  | .binary => (LengthRange.binary.within length).most
  | .uuid => 36
  | .json => 128
  | .integer | .decimal | .boolean | .date | .timestamp => 0

def fieldBytes (f : Model.Field) : Nat :=
  let length := f.domain.length
  match f.terminal with
  | .primitive p => limited (slotBytes + payloadBytes p length)
  | .array item fixed =>
    let count := fixed.getD (LengthRange.array.within length).most
    let item := limited (slotBytes + payloadBytes item .unbounded)
    limited (slotBytes + limited (count * item))

def recordBytes (t : Model.Table) : Nat :=
  t.fields.foldl (fun total f => limited (total + fieldBytes f)) 0

/-- Rows of a batch: as many as fit under the ceiling, but at least one and no more than allowed. -/
def size (t : Model.Table) (ceiling most : Nat) : Nat :=
  max 1 (min (ceiling / max (recordBytes t) 1) (max most 1))

structure Span where
  first : Nat
  length : Nat
  deriving DecidableEq, Repr

namespace Span

def rows (s : Span) : List Nat :=
  List.range' s.first s.length

def stop (s : Span) : Nat :=
  s.first + s.length

end Span

/-- The batch that begins at a row of a table with `count` rows. Only the last one is shorter than
the others. -/
def spanFrom (size count start : Nat) : Span :=
  ⟨start, min (max size 1) (count - start)⟩

end Fixtures.Generation.Batch
