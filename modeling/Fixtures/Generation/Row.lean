import Fixtures.Check.Evaluation
import Fixtures.Generation.KeyTracker
import Fixtures.Generation.Reference
import Fixtures.Generation.Value

namespace Fixtures.Generation

def hashByte (hash : UInt64) (byte : UInt8) : UInt64 :=
  (hash ^^^ byte.toUInt64) * 0x100000001b3

def tableSeed (seed : UInt64) (table : String) : UInt64 :=
  table.toUTF8.data.toList.foldl hashByte (seed ^^^ 0xcbf29ce484222325)

def rowSeed (tableSeed : UInt64) (row attempt : Nat) : UInt64 :=
  ((tableSeed ^^^ (UInt64.ofNat row * 0x9e3779b97f4a7c15)) ^^^ UInt64.ofNat attempt) *
    0x100000001b3

abbrev RowDraw (α : Type) := ExceptT GenerationError Random.Draw α

def RowDraw.onSeed {α : Type} (draw : RowDraw α) (seed : UInt64) : Except GenerationError α :=
  match draw.run.run (Random.Source.ofSeed seed) with
  | .ok (result, _) => result
  | .error f => .error (.fault f)

structure TableJob where
  table : Model.Table
  plan : TablePlan
  references : References
  options : Options
  seed : UInt64

/-- An attempt at a row that was not refused, and how many were. -/
structure SampledRow where
  values : List Value
  attempt : Nat
  retries : Nat

namespace TableJob

/-- Number of an attempt at a row, which no other attempt at any row of the table has. -/
def ordinal (job : TableJob) (row attempt : Nat) : Nat :=
  min (min ((attempt - 1) * job.plan.count) maxOrdinal + row) maxOrdinal

def domainAt (job : TableJob) (i : Nat) : Option Domain :=
  job.table.fields[i]?.map Model.Field.domain

/-- The first field of a foreign key whose domain does not admit its value, with the constraint. -/
def refusedMember? (job : TableJob) (k : ForeignKeyPlan) (tuple : List Value) :
    Option (Nat × String) :=
  (k.fields.zip tuple).findSome? fun (i, v) =>
    ((job.domainAt i).bind fun d => d.refusal? v).map fun violated => (i, violated)

/-- Draws keys of the target table until the fields of a foreign key admit one. -/
def parentKey (job : TableJob) (k : ForeignKeyPlan) : Nat → Nat × String → RowDraw (List Value)
  | 0, (i, violated) => throw (.unsatisfiable job.plan.name (job.plan.nameAt i) violated)
  | attempts + 1, _ => do
    let tuple ← (job.references.resolve job.plan.name k : Random.Draw _)
    match job.refusedMember? k tuple with
    | none => return tuple
    | some refused => job.parentKey k attempts refused

def setAll (values : List Value) (members : List (Nat × Value)) : List Value :=
  members.foldl (fun vs m => vs.set m.1 m.2) values

/-- Values of the fields of all foreign keys. Where keys share a field the last one counts. -/
def foreignValues (job : TableJob) (values : List Value) :
    List ForeignKeyPlan → RowDraw (List Value)
  | [] => return values
  | k :: ks => do
    let tuple ← job.parentKey k job.options.maxAttemptsValue (0, "")
    job.foreignValues (setAll values (k.fields.zip tuple)) ks

/-- Whether a field is left null. Only a field that may be null draws for it. -/
def leftNull (plan : FieldPlan) : Random.Draw Bool :=
  if plan.nullable then Random.chance plan.nullRate else return false

/-- The value of a field that is in no foreign key, or the one that it has. -/
def fieldValue (job : TableJob) (row attempt : Nat) (plan : FieldPlan) (field : Model.Field)
    (current : Value) : RowDraw Value := do
  if plan.foreignKey.isSome then return current
  else if ← (leftNull plan : Random.Draw Bool) then return current
  else
    let request : ValueRequest :=
      ⟨field, plan, row, job.ordinal row attempt, job.options.baseDate⟩
    match ← (request.value job.options.maxAttemptsValue : Random.Draw _) with
    | .ok v => return v
    | .error violated => throw (.unsatisfiable job.plan.name field.name violated)

def fieldValues (job : TableJob) (row attempt : Nat) :
    List (FieldPlan × Model.Field × Value) → RowDraw (List Value)
  | [] => return []
  | (plan, field, current) :: rest => do
    let v ← job.fieldValue row attempt plan field current
    return v :: (← job.fieldValues row attempt rest)

def drawValues (job : TableJob) (row attempt : Nat) : RowDraw (List Value) := do
  let blank := List.replicate job.plan.fields.length Value.null
  let foreign ← job.foreignValues blank job.plan.foreignKeys
  job.fieldValues row attempt (job.plan.fields.zip (job.table.fields.zip foreign))

def rowValues (job : TableJob) (row attempt : Nat) : Except GenerationError (List Value) :=
  (job.drawValues row attempt).onSeed (rowSeed job.seed row attempt)

def lookup (job : TableJob) (values : List Value) (field : String) : Option Value :=
  (job.table.fieldIndex? field).bind fun i => values[i]?

/-- The first check that is false on a row. A check whose truth is unknown passes. -/
def failedCheck? (job : TableJob) (values : List Value) : Option Model.Check :=
  job.table.checks.find? fun c => c.expression.holds (job.lookup values) = some false

def checkError (job : TableJob) (c : Model.Check) : GenerationError :=
  .unsatisfiable job.plan.name (Text.joined ", " c.expression.fields) c.label

def keyError (job : TableJob) (k : KeyPlan) : GenerationError :=
  .unsatisfiable job.plan.name (Text.joined ", " (k.fields.map job.plan.nameAt)) k.label

def refusal? (job : TableJob) (taken : KeyTracker) (values : List Value) : Option GenerationError :=
  match job.failedCheck? values with
  | some c => some (job.checkError c)
  | none => (taken.conflict? values).map job.keyError

def noAttempts (job : TableJob) : GenerationError :=
  .unsatisfiable job.plan.name "" (toString job.options.maxAttemptsRow ++ " row attempts")

/-- Makes attempts until one is not refused; the last refusal is the error. -/
def search (job : TableJob) (taken : KeyTracker) (row first : Nat) :
    (attempts : Nat) → (attempt : Nat) → GenerationError → Except GenerationError SampledRow
  | 0, _, refused => .error refused
  | attempts + 1, attempt, _ => do
    let values ← job.rowValues row attempt
    match job.refusal? taken values with
    | none => return ⟨values, attempt, attempt - first⟩
    | some refused => job.search taken row first attempts (attempt + 1) refused

/-- The first attempt at a row, from a given one on, that is not refused. -/
def sampleRow (job : TableJob) (taken : KeyTracker) (row first : Nat) :
    Except GenerationError SampledRow :=
  job.search taken row first (job.options.maxAttemptsRow + 1 - first) first job.noAttempts

theorem le_attempt_of_search {job : TableJob} {taken : KeyTracker} {row first : Nat}
    {sampled : SampledRow} {attempts attempt : Nat} {refused : GenerationError}
    (h : job.search taken row first attempts attempt refused = .ok sampled) :
    attempt ≤ sampled.attempt := by
  induction attempts generalizing attempt refused with
  | zero => simp [search] at h
  | succ attempts ih =>
    simp only [search, bind, Except.bind] at h
    split at h
    · cases h
    · split at h
      · cases h
        exact Nat.le_refl _
      · exact Nat.le_of_succ_le (ih h)

theorem le_attempt_of_sampleRow {job : TableJob} {taken : KeyTracker} {row first : Nat}
    {sampled : SampledRow} (h : job.sampleRow taken row first = .ok sampled) :
    first ≤ sampled.attempt :=
  le_attempt_of_search h

/-- Takes the keys of a row. As long as one of them is taken by now, the attempts at the row go
on. -/
def commitRow (job : TableJob) (taken : KeyTracker) (row : Nat) (sampled : SampledRow) :
    Except GenerationError (SampledRow × KeyTracker) :=
  match taken.insert sampled.values with
  | .ok next => .ok (sampled, next)
  | .error key =>
    if _last : job.options.maxAttemptsRow ≤ sampled.attempt then .error (job.keyError key)
    else
      match _again : job.sampleRow taken row (sampled.attempt + 1) with
      | .error e => .error e
      | .ok again =>
        job.commitRow taken row { again with retries := again.retries + (sampled.retries + 1) }
termination_by job.options.maxAttemptsRow - sampled.attempt
decreasing_by
  have hnext := le_attempt_of_sampleRow _again
  omega

def commitRows (job : TableJob) (taken : KeyTracker) :
    List (Nat × Except GenerationError SampledRow) →
      Except GenerationError (List SampledRow × KeyTracker)
  | [] => .ok ([], taken)
  | (row, sampled) :: rest => do
    let (committed, taken) ← job.commitRow taken row (← sampled)
    let (more, taken) ← job.commitRows taken rest
    return (committed :: more, taken)

def faultOf? {α : Type} : Except GenerationError α → Option Random.Fault
  | .error e => e.fault?
  | .ok _ => none

/-- Generates a batch: samples every row beside the keys of earlier batches, then commits the rows
one by one. A fault in any row ends the run before the first is committed. -/
def generateBatch (job : TableJob) (taken : KeyTracker) (rows : List Nat) :
    Except GenerationError (List SampledRow × KeyTracker) :=
  let sampled := rows.map fun row => (row, job.sampleRow taken row 1)
  match sampled.findSome? fun s => faultOf? s.2 with
  | some f => .error (.fault f)
  | none => job.commitRows taken sampled

end TableJob

end Fixtures.Generation
