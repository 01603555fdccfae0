import Fixtures.Domain.Basic
import Fixtures.Generation.Length

namespace Fixtures.Generation

open Fixtures.Random

def times {α : Type} (count : Nat) (draw : Draw α) : Draw (List α) :=
  (List.range count).mapM fun _ => draw

/-- Integers are below this where nothing else is said. -/
def usualMax : Int := 10000

/-- The integer that a bound comes to, held within 64 signed bits. -/
def lowerInt (x : Float) : Int :=
  Binary64.toInt64 (Binary64.ceil x)

def upperInt (x : Float) : Int :=
  Binary64.toInt64 (Binary64.floor x)

def intRange (b : Bounds Float) : Int × Int :=
  match b.min.map lowerInt, b.max.map upperInt with
  | some low, some high => (low, high)
  | some low, none =>
    (low, if low < usualMax then usualMax else Binary64.clampInt64 (low + usualMax))
  | none, some high =>
    (if 0 < high then 0 else Binary64.clampInt64 (high - usualMax), high)
  | none, none => (0, usualMax)

def randomInt (b : Bounds Float) : Draw Int :=
  match intRange b with
  | (low, high) => if high ≤ low then return low else between .bits64 low high

def decimalRange (b : Bounds Float) : Float × Float :=
  match b.min, b.max with
  | some low, some high => (low, high)
  | some low, none => (low, (if 0.0 < low then low else 0.0) + 10000.0)
  | none, some high => ((if high < 0.0 then high else 0.0) - 10000.0, high)
  | none, none => (0.0, 10000.0)

def hundredths (x : Float) : Float :=
  Binary64.round (x * 100.0) / 100.0

/-- A decimal with two places, or with all of its places if the bounds do not admit that one. -/
def randomDecimal (b : Bounds Float) : Draw Float :=
  match decimalRange b with
  | (low, high) =>
    if high ≤ low then return low
    else do
      let x ← floatBetween low high
      let short := hundredths x
      return if b.contains short then short else x

def usualDays : Int := 365

def secondsOfDays (days : Int) : Int :=
  days * 86400

/-- The date after some days, or the same one if there is no such date. -/
def shiftDate (d : Date) (days : Int) : Date :=
  (d.addDays? days).getD d

def shiftTimestamp (t : Timestamp) (seconds : Int) : Timestamp :=
  (t.addSeconds? seconds).getD t

/-- The first day that begins no earlier than an instant, or its own day if there is none. -/
def dayFrom (t : Timestamp) : Date :=
  if t.isMidnight then t.date else shiftDate t.date 1

def dateRange (b : Bounds Timestamp) (base : Date) : Date × Date :=
  match b.min.map dayFrom, b.max.map Timestamp.date with
  | some first, some last => (first, last)
  | some first, none => (first, shiftDate first usualDays)
  | none, some last => (shiftDate last (-usualDays), last)
  | none, none => (base, shiftDate base usualDays)

def randomDate (b : Bounds Timestamp) (base : Date) : Draw Date :=
  match dateRange b base with
  | (first, last) =>
    let days := last.day - first.day
    if days ≤ 0 then return first
    else do
      let offset ← between .bits64 0 days
      return shiftDate first offset

def timestampRange (b : Bounds Timestamp) (base : Date) : Timestamp × Timestamp :=
  let span := secondsOfDays usualDays
  match b.min, b.max with
  | some first, some last => (first, last)
  | some first, none => (first, shiftTimestamp first span)
  | none, some last => (shiftTimestamp last (-span), last)
  | none, none => (.midnight base, shiftTimestamp (.midnight base) span)

def randomTimestamp (b : Bounds Timestamp) (base : Date) : Draw Timestamp :=
  match timestampRange b base with
  | (first, last) =>
    let seconds := last.secondsSince first
    if seconds ≤ 0 then return first
    else do
      let offset ← between .bits64 0 seconds
      return shiftTimestamp first offset

def alphanumerics : List Char :=
  "abcdefghijklmnopqrstuvwxyzABCDEFGHIJKLMNOPQRSTUVWXYZ0123456789".toList

def alphanumeric (length : Nat) : Draw String := do
  reserve length 1
  return String.ofList (← times length (choose 'a' alphanumerics))

def randomUuid : Draw String := do
  return Uuid.render (Uuid.markRandom (← fill 16))

def randomJson : Draw Json := do
  let id ← between .bits64 1 usualMax
  let label ← alphanumeric 8
  let active ← chance 0.5
  return .object [("active", .bool active), ("id", .int id), ("label", .string label)]

/-- A value of a type within the bounds of a domain. The length of texts and byte sequences has
bounds of its own. -/
def randomScalar (p : Primitive) (d : Domain) (length : Bounds Nat) (base : Date) : Draw Value :=
  match p with
  | .integer => return .int (← randomInt d.numeric)
  | .decimal => return .decimal (← randomDecimal d.numeric)
  | .string => do
    let n ← (LengthRange.text.within length).draw
    return .text (← alphanumeric n)
  | .boolean => return .bool (← chance 0.5)
  | .date => return .date (← randomDate d.temporal base)
  | .timestamp => return .timestamp (← randomTimestamp d.temporal base)
  | .uuid => return .uuid (← randomUuid)
  | .binary => do
    let n ← (LengthRange.binary.within length).draw
    return .binary (← bytes n)
  | .json => return .json (← randomJson)

end Fixtures.Generation
