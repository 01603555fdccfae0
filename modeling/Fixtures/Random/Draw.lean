import Fixtures.Random.Source
import Fixtures.Numeric.Binary64

namespace Fixtures.Random

/-- Values that do not exist: a length of time beyond what can be added to a date, a choice between
numbers that are infinitely far apart, a list of more bytes than there are addresses, a choice of
nothing, and a chance that is no probability. -/
inductive Fault
  | spanTooLong
  | widthNotFinite
  | listTooLong
  | nothingToChoose
  | notProbability
  deriving DecidableEq, Repr

abbrev Draw (α : Type) := StateT Source (Except Fault) α

def word32 : Draw Nat := fun s =>
  let (word, s) := s.next
  .ok (word.toNat, s)

def word64 : Draw Nat := do
  let low ← word32
  let high ← word32
  return low + high * twoTo 32

def bytesOf (word : Nat) : List UInt8 :=
  [UInt8.ofNat word, UInt8.ofNat (word / twoTo 8), UInt8.ofNat (word / twoTo 16),
    UInt8.ofNat (word / twoTo 24)]

/-- Bytes of whole words; what is left of the last word is dropped. -/
def fill : Nat → Draw (List UInt8)
  | n + 4 => do
    let word ← word32
    let rest ← fill n
    return bytesOf word ++ rest
  | 0 => return []
  | n => do
    let word ← word32
    return (bytesOf word).take n

/-- A list cannot have so many bytes, however large the memory is. -/
def byteLimit : Nat := twoTo 63

/-- Sets memory aside for a list of so many items, before any of them is drawn. -/
def reserve (count itemBytes : Nat) : Draw Unit :=
  if byteLimit ≤ count * itemBytes then throw .listTooLong else return ()

def bytes (n : Nat) : Draw (List UInt8) := do
  reserve n 1
  fill n

/-- Size of the words that an integer is drawn from. -/
inductive Width
  | bits32
  | bits64
  deriving DecidableEq, Repr

def Width.modulus : Width → Nat
  | .bits32 => twoTo 32
  | .bits64 => twoTo 64

def Width.word : Width → Draw Nat
  | .bits32 => word32
  | .bits64 => word64

/-- An integer between `low` and `high`, both included. The high half of the product of a word and
the number of choices is the result; a second word decides whether its low half carries. -/
def between (width : Width) (low high : Int) : Draw Int :=
  if high < low then throw .nothingToChoose
  else do
    let modulus := width.modulus
    let range := ((high - low + 1) % modulus).toNat
    let word ← width.word
    if range = 0 then return low + (word - low) % modulus
    else
      let product := word * range
      let part := product / modulus
      let rest := product % modulus
      if modulus - range < rest then
        let second ← width.word
        let carry := if modulus ≤ rest + second * range / modulus then 1 else 0
        return low + part + carry
      else return low + part

def index (count : Nat) : Draw Nat := do
  let width : Width := if count ≤ twoTo 32 then .bits32 else .bits64
  let i ← between width 0 ((count : Int) - 1)
  return i.toNat

def choose {α : Type} (fallback : α) (items : List α) : Draw α := do
  let i ← index items.length
  return items.getD i fallback

/-- Draws words until the low half of the product is not in the overhang of the last incomplete
round of choices. Every refusal has less than even odds. -/
def evenlyFrom (count threshold : Nat) : Nat → Draw Nat
  | 0 => return 0
  | fuel + 1 => do
    let word ← word32
    let product := word * count
    if product % twoTo 32 < threshold then evenlyFrom count threshold fuel
    else return product / twoTo 32

def evenly (count : Nat) : Draw Nat :=
  if count % twoTo 32 = 0 then word32
  else evenlyFrom count ((twoTo 32 - count) % count) 4096

def unitFloat : Draw Float := do
  let word ← word64
  return Float.ofInt (word / twoTo 11) * (1.0 / 9007199254740992.0)

def floatBetween (low high : Float) : Draw Float := do
  let width := high - low
  if !width.isFinite then throw .widthNotFinite
  let word ← word64
  let fraction := Float.ofBits (UInt64.ofNat (word / twoTo 12 + 0x3FF * twoTo 52)) - 1.0
  return fraction * width + low

/-- True with a probability. Certainty draws nothing. -/
def chance (p : Float) : Draw Bool :=
  if p == 1.0 then return true
  else if 0.0 ≤ p && p < 1.0 then do
    let word ← word64
    return word < (p * 18446744073709551616.0).toUInt64.toNat
  else throw .notProbability

end Fixtures.Random
