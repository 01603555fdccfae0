import Fixtures.Faker.Topic
import Fixtures.Generation.Scalar

namespace Fixtures.Generation

/-- Whether keys of a type can follow from the number of a row. -/
def derivesKeys : Primitive → Bool
  | .integer | .decimal | .string | .date | .timestamp => true
  | .boolean | .uuid | .binary | .json => false

def int64? (n : Int) : Option Int :=
  if Binary64.isInt64 n then some n else none

def maxOrdinal : Nat := 18446744073709551615

def nextOrdinal (n : Nat) : Nat :=
  min (n + 1) maxOrdinal

/-- Counts up from the lower bound, or down from the upper one, or up from one. -/
def keyedInt? (b : Bounds Float) (n : Int) : Option Int :=
  match b.min, b.max with
  | some low, _ => int64? (lowerInt low + n)
  | none, some high => int64? (upperInt high - n)
  | none, none => int64? (n + 1)

def keyedDecimal (b : Bounds Float) (n : Float) : Float :=
  match b.min, b.max with
  | some low, _ => low + n
  | none, some high => high - n
  | none, none => n + 1.0

def keyedText (topic : Faker.Topic) (field : String) (ordinal : Nat) : String :=
  let number := toString (nextOrdinal ordinal)
  match topic with
  | .email => "user" ++ Text.padLeft 5 '0' number ++ "@example.com"
  | _ => field ++ "_" ++ number

def keyedDate? (b : Bounds Timestamp) (base : Date) (n : Int) : Option Date :=
  match b.min, b.max with
  | some first, _ => first.date.addDays? n
  | none, some last => last.date.addDays? (-n)
  | none, none => base.addDays? n

def keyedTimestamp? (b : Bounds Timestamp) (base : Date) (n : Int) : Option Timestamp :=
  match b.min, b.max with
  | some first, _ => first.addSeconds? n
  | none, some last => last.addSeconds? (-n)
  | none, none => (Timestamp.midnight base).addSeconds? n

/-- The value at a number, whether or not the domain admits it. -/
def countedValue? (p : Primitive) (d : Domain) (topic : Faker.Topic) (field : String)
    (ordinal : Nat) (base : Date) : Option Value :=
  match p with
  | .integer => ((int64? ordinal).bind (keyedInt? d.numeric)).map .int
  | .decimal => some (.decimal (keyedDecimal d.numeric (Float.ofNat ordinal)))
  | .string => some (.text (keyedText topic field ordinal))
  | .date => (keyedDate? d.temporal base ordinal).map .date
  | .timestamp => ((int64? ordinal).bind (keyedTimestamp? d.temporal base)).map .timestamp
  | .boolean | .uuid | .binary | .json => none

/-- The key at a number, if the type has such keys and the domain admits it. -/
def keyedValue? (p : Primitive) (d : Domain) (topic : Faker.Topic) (field : String)
    (ordinal : Nat) (base : Date) : Option Value :=
  (countedValue? p d topic field ordinal base).filter d.admits

end Fixtures.Generation
