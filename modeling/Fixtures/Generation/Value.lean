import Fixtures.Generation.Batch
import Fixtures.Generation.Plan
import Fixtures.Generation.Sequence

namespace Fixtures.Generation

structure ValueRequest where
  field : Model.Field
  plan : FieldPlan
  row : Nat
  /-- A number that no other row and no other attempt has. -/
  ordinal : Nat
  baseDate : Date

namespace ValueRequest

def signedRow (row : Nat) : Int :=
  Int.bmod row (twoTo 64)

def sequenceNumber (start step : Int) (row : Nat) : Int :=
  Binary64.clampInt64 (start + Binary64.clampInt64 (signedRow row * step))

/-- One of the values of an enum: in turn for a sequence, else at random. -/
def allowedValue (q : ValueRequest) (synthetic : Bool) (values : List Value) : Random.Draw Value :=
  if synthetic && q.plan.strategy.isSequential then
    return values.getD (q.row % values.length) .null
  else Random.choose .null values

/-- A value that the strategy makes up, or one at random if it is not asked. -/
def strategyValue (q : ValueRequest) (p : Primitive) (length : Bounds Nat) (synthetic : Bool) :
    Random.Draw Value :=
  let domain := q.field.domain
  let random := randomScalar p domain length q.baseDate
  if !synthetic then random
  else
    match q.plan.strategy with
    | .faker locale library =>
      if p = .string then return .text (← library locale q.plan.topic) else random
    | .sequential start step =>
      let n := sequenceNumber start step q.row
      sequentialValue p domain.numeric q.field.name n q.baseDate
    | _ => random

def element (q : ValueRequest) (p : Primitive) (length : Bounds Nat) (synthetic : Bool) :
    Random.Draw Value :=
  match q.field.domain.allowed, q.plan.pattern with
  | some (v :: vs), _ => q.allowedValue synthetic (v :: vs)
  | _, some sampler =>
    if p = .string then return .text (← patternText sampler)
    else q.strategyValue p length synthetic
  | _, none => q.strategyValue p length synthetic

def typedValue (q : ValueRequest) (synthetic : Bool) : Random.Draw Value :=
  let domain := q.field.domain
  match domain.terminal with
  | .primitive p => q.element p domain.length synthetic
  | .array item fixed => do
    let lengths :=
      match fixed with
      | some n => LengthRange.mk n n
      | none => LengthRange.array.within domain.length
    let count ← lengths.draw
    Random.reserve count Batch.slotBytes
    return .array (← times count (q.element item .unbounded synthetic))

/-- The value that follows from the number of the row, if the plan asks for it. -/
def derivedValue? (q : ValueRequest) : Option Value :=
  match q.plan.rowKeyed, q.field.domain.terminal with
  | true, .primitive p =>
    keyedValue? p q.field.domain q.plan.topic q.field.name q.ordinal q.baseDate
  | _, _ => none

def defaultValue? (q : ValueRequest) : Option Value :=
  match q.plan.strategy with
  | .default => q.field.default
  | _ => none

def candidate (q : ValueRequest) (synthetic : Bool) : Random.Draw Value :=
  match if synthetic then q.derivedValue? else none with
  | some v => return v
  | none =>
    match q.defaultValue? with
    | some v => return v
    | none => q.typedValue synthetic

/-- Makes so many candidates until the domain admits one; the first `synthetic` of them follow the
strategy. The error names the constraint that the last one violates. -/
def search (q : ValueRequest) :
    (synthetic attempts : Nat) → String → Random.Draw (Except String Value)
  | _, 0, violated => return .error violated
  | synthetic, attempts + 1, _ => do
    let v ← q.candidate (0 < synthetic)
    match q.field.domain.refusal? v with
    | none => return .ok v
    | some violated => q.search (synthetic - 1) attempts violated

/-- A value that the domain admits, within so many attempts. The strategy makes up the first half of
the candidates. -/
def value (q : ValueRequest) (attempts : Nat) : Random.Draw (Except String Value) :=
  q.search ((attempts + 1) / 2) attempts ""

end ValueRequest

end Fixtures.Generation
