import Fixtures.Calendar.Date

namespace Fixtures

/-- A day, the second within it, and whether it is the leap second that follows that second. -/
structure Timestamp where
  date : Date
  second : Nat
  leap : Bool
  second_lt : second < 86400
  deriving DecidableEq

/-- Lengths of time in seconds that can be added: their milliseconds fit 64 bits. -/
def Timestamp.maxSpan : Int := 9223372036854775

namespace Timestamp

def midnight (d : Date) : Timestamp :=
  ⟨d, 0, false, by decide⟩

instance : Inhabited Timestamp := ⟨midnight default⟩

/-- Position of the second within its day, leap seconds in between. -/
def rank (t : Timestamp) : Nat :=
  2 * t.second + t.leap.toNat

def compare (a b : Timestamp) : Ordering :=
  (Ord.compare a.date.day b.date.day).then (Ord.compare a.rank b.rank)

instance : LT Timestamp :=
  ⟨fun a b => a.date.day < b.date.day ∨ a.date.day = b.date.day ∧ a.rank < b.rank⟩
instance : LE Timestamp :=
  ⟨fun a b => a.date.day < b.date.day ∨ a.date.day = b.date.day ∧ a.rank ≤ b.rank⟩
instance (a b : Timestamp) : Decidable (a < b) :=
  inferInstanceAs (Decidable (_ ∨ _))
instance (a b : Timestamp) : Decidable (a ≤ b) :=
  inferInstanceAs (Decidable (_ ∨ _))

def isMidnight (t : Timestamp) : Bool :=
  t.second = 0 && !t.leap

/-- The instant some seconds later, or earlier for a negative count. Leaving a leap second forwards
counts from the second it follows, leaving it backwards from the one that comes next. -/
def addSeconds? (t : Timestamp) (seconds : Int) : Option Timestamp :=
  if seconds = 0 then some t
  else
    let start : Int := if t.leap && seconds < 0 then t.second + 1 else t.second
    let total := start + seconds
    (t.date.addDays? (total / 86400)).map fun date =>
      ⟨date, (total % 86400).toNat, false, by omega⟩

/-- Seconds from `b` to `a`. The leap seconds of both count where they lie in between. -/
def secondsSince (a b : Timestamp) : Int :=
  let leapA : Int := a.leap.toNat
  let leapB : Int := b.leap.toNat
  let within : Int :=
    if b.second < a.second then leapA
    else if a.second < b.second then -leapB
    else leapA - leapB
  (a.date.day - b.date.day) * 86400 + (a.second - b.second) + within

end Timestamp

end Fixtures
