namespace Fixtures

/-- Day numbers of the first and the last date, counted from 1970-01-01. -/
def Date.firstDay : Int := -96465292
def Date.lastDay : Int := 95026236

/-- A day, by its number counted from 1970-01-01. -/
structure Date where
  day : Int
  first_le : Date.firstDay ≤ day
  le_last : day ≤ Date.lastDay
  deriving DecidableEq

namespace Date

def ofDay? (day : Int) : Option Date :=
  if h : firstDay ≤ day ∧ day ≤ lastDay then some ⟨day, h.1, h.2⟩ else none

def first : Date := ⟨firstDay, by decide, by decide⟩
def last : Date := ⟨lastDay, by decide, by decide⟩

instance : Inhabited Date := ⟨⟨0, by decide, by decide⟩⟩
instance : LT Date := ⟨fun a b => a.day < b.day⟩
instance : LE Date := ⟨fun a b => a.day ≤ b.day⟩
instance (a b : Date) : Decidable (a < b) := inferInstanceAs (Decidable (a.day < b.day))
instance (a b : Date) : Decidable (a ≤ b) := inferInstanceAs (Decidable (a.day ≤ b.day))

structure Civil where
  year : Int
  month : Nat
  dayOfMonth : Nat
  deriving DecidableEq, Repr

def isLeapYear (year : Int) : Bool :=
  year % 4 = 0 && (year % 100 ≠ 0 || year % 400 = 0)

def daysInMonth (year : Int) (month : Nat) : Nat :=
  match month with
  | 2 => if isLeapYear year then 29 else 28
  | 4 | 6 | 9 | 11 => 30
  | _ => 31

/-- Day number of a year, month and day. Years count from March, so that a leap day ends one. -/
def dayNumber (c : Civil) : Int :=
  let year := if c.month ≤ 2 then c.year - 1 else c.year
  let era := year / 400
  let yearOfEra := year - era * 400
  let month : Int := (c.month + 9) % 12
  let dayOfYear := (153 * month + 2) / 5 + c.dayOfMonth - 1
  let dayOfEra := yearOfEra * 365 + yearOfEra / 4 - yearOfEra / 100 + dayOfYear
  era * 146097 + dayOfEra - 719468

def civil (d : Date) : Civil :=
  let z := d.day + 719468
  let era := z / 146097
  let dayOfEra := z - era * 146097
  let yearOfEra := (dayOfEra - dayOfEra / 1460 + dayOfEra / 36524 - dayOfEra / 146096) / 365
  let dayOfYear := dayOfEra - (365 * yearOfEra + yearOfEra / 4 - yearOfEra / 100)
  let shifted := (5 * dayOfYear + 2) / 153
  let dayOfMonth := dayOfYear - (153 * shifted + 2) / 5 + 1
  let month := if shifted < 10 then shifted + 3 else shifted - 9
  let year := yearOfEra + era * 400
  ⟨if month ≤ 2 then year + 1 else year, month.toNat, dayOfMonth.toNat⟩

def ofCivil? (c : Civil) : Option Date :=
  if 1 ≤ c.month ∧ c.month ≤ 12 ∧ 1 ≤ c.dayOfMonth ∧ c.dayOfMonth ≤ daysInMonth c.year c.month then
    ofDay? (dayNumber c)
  else none

/-- The date some days later, or earlier for a negative count. -/
def addDays? (d : Date) (days : Int) : Option Date :=
  ofDay? (d.day + days)

end Date

end Fixtures
