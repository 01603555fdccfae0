import Fixtures.Generation.Scalar

namespace Fixtures.Generation

/-- A number brought into bounds by steps of their width. Numbers inside stay, and so do all numbers
where a bound is missing or the bounds are empty. -/
def wrapInto (b : Bounds Float) (n : Int) : Int :=
  match b.min.map lowerInt, b.max.map upperInt with
  | some low, some high =>
    if high < low ∨ (low ≤ n ∧ n ≤ high) then n
    else low + (n - low) % (high - low + 1)
  | _, _ => n

/-- The eight bytes of a 64-bit number, high ones first. Negative numbers count from the top. -/
def bytesOfInt64 (n : Int) : List UInt8 :=
  let word := (n % twoTo 64).toNat
  (List.range 8).reverse.map fun i => UInt8.ofNat (word / twoTo (8 * i))

/-- A length of time, or a fault if it is too long to be added to an instant. -/
def span (seconds : Int) : Except Random.Fault Int :=
  if -Timestamp.maxSpan ≤ seconds ∧ seconds ≤ Timestamp.maxSpan then .ok seconds
  else .error .spanTooLong

/-- Value number `n` of a sequence: days for dates, hours for timestamps. Where there is no such
date or instant it is the base date. -/
def sequentialValue (p : Primitive) (b : Bounds Float) (field : String) (n : Int) (base : Date) :
    Except Random.Fault Value :=
  match p with
  | .integer => .ok (.int (wrapInto b n))
  | .decimal => .ok (.decimal (Float.ofInt n))
  | .string => .ok (.text (field ++ "_" ++ toString n))
  | .boolean => .ok (.bool (n % 2 = 1))
  | .date => do
    let _ ← span (secondsOfDays n)
    return .date (shiftDate base n)
  | .timestamp => do
    let seconds ← span (n * 3600)
    return .timestamp (shiftTimestamp (.midnight base) seconds)
  | .uuid => .ok (.uuid (Uuid.render (Uuid.ofNat n.natAbs)))
  | .binary => .ok (.binary (bytesOfInt64 n))
  | .json => .ok (.json (.object [("seq", .int n)]))

end Fixtures.Generation
