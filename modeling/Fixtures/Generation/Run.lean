import Fixtures.Generation.Batch
import Fixtures.Generation.Event
import Fixtures.Generation.Report
import Fixtures.Generation.Row
import Fixtures.Model.Analysis

namespace Fixtures.Generation

/-- What is handed over until the end or an error, and which of the two it is. -/
abbrev Emitted (α : Type) := List Event × Except GenerationError α

namespace TableJob

def recordsFrom (job : TableJob) (start : Nat) (rows : List SampledRow) : List Record :=
  rows.mapIdx fun i r => ⟨job.plan.name, start + i, job.plan.fieldNames, r.values⟩

def batchSize (job : TableJob) : Nat :=
  Batch.size job.table job.options.batchMemoryCeiling job.options.maxBatchSize

def batchFrom (job : TableJob) (start : Nat) : Batch.Span :=
  Batch.spanFrom job.batchSize job.plan.count start

def generateFrom (job : TableJob) (start : Nat) (taken : KeyTracker) : Emitted (List SampledRow) :=
  if start < job.plan.count then
    let span := job.batchFrom start
    match job.generateBatch taken span.rows with
    | .error e => ([], .error e)
    | .ok (rows, taken) =>
      let rest := job.generateFrom span.stop taken
      (.batch job.plan.name (job.recordsFrom start rows) :: rest.1, rest.2.map (rows ++ ·))
  else ([], .ok [])
termination_by job.plan.count - start
decreasing_by
  simp only [batchFrom, Batch.spanFrom, Batch.Span.stop]
  omega

/-- The target table of the first foreign key that no row can be given a value for. -/
def emptyParent? (job : TableJob) : Option String :=
  if job.plan.count = 0 then none
  else
    (job.plan.foreignKeys.find? fun k =>
      job.references.keyCount k.targetTable k.targetFields = 0).map ForeignKeyPlan.targetTable

def reportOf (job : TableJob) (rows : List SampledRow) (batches : Nat) : TableReport :=
  let report : TableReport :=
    { table := job.plan.name
      state := .complete
      rowsRequested := job.plan.count
      rowsGenerated := rows.length
      batches
      batchSize := job.batchSize
      retries := total (rows.map SampledRow.retries) }
  job.plan.sources.foldl (fun r s => r.recordUsage s.1 (s.2 * rows.length)) report

def generate (job : TableJob) : Emitted (List SampledRow × TableReport) :=
  match job.emptyParent? with
  | some target => ([], .error (.emptyReferenceSet job.plan.name target))
  | none =>
    let begin := Event.begin job.plan.name job.plan.count
    match job.generateFrom 0 (.ofKeys job.plan.keys) with
    | (batches, .error e) => (begin :: batches, .error e)
    | (batches, .ok rows) =>
      (begin :: batches ++ [.finish job.plan.name], .ok (rows, job.reportOf rows batches.length))

end TableJob

/-- Lists of fields that other tables may reference a table by: those of its first key, and those
that foreign keys name. -/
def referenceLists (t : Model.Table) (plans : List TablePlan) : List (List String) :=
  let first := (t.keys.head?.map Model.Key.fields).toList
  let targets := (plans.flatMap TablePlan.foreignKeys).filter fun k => k.targetTable = t.name
  targets.foldl (fun lists k =>
    if lists.contains k.targetFields then lists else lists ++ [k.targetFields]) first

def project (t : Model.Table) (fields : List String) (values : List Value) : List Value :=
  (fields.filterMap t.fieldIndex?).map fun i => values.getD i .null

def registerRows (r : References) (t : Model.Table) (plans : List TablePlan)
    (rows : List SampledRow) : References :=
  (referenceLists t plans).foldl (fun r fields =>
    r.register t.name fields (rows.map fun row => project t fields row.values)) r

structure Run where
  model : Model
  options : Options
  seed : UInt64
  plans : List TablePlan

namespace Run

def job (run : Run) (table : Model.Table) (plan : TablePlan) (references : References) :
    TableJob :=
  ⟨table, plan, references, run.options, tableSeed run.seed plan.name⟩

def generateTables (run : Run) : References → Report → List TablePlan → Emitted Report
  | _, report, [] => ([], .ok report)
  | references, report, plan :: plans =>
    match TablePlan.tableOf run.model plan.name with
    | .error e => ([], .error e)
    | .ok table =>
      match (run.job table plan references).generate with
      | (events, .error e) => (events, .error e)
      | (events, .ok (rows, tableReport)) =>
        let references := registerRows references table run.plans rows
        let rest := run.generateTables references (report.recordTable tableReport) plans
        (events ++ rest.1, rest.2)

def initialReport (run : Run) : Report :=
  let report := run.model.warnings.foldl Report.recordWarning (.empty run.seed.toNat)
  run.plans.foldl (fun r p => r.recordTable (.pending p.name p.count)) report

def generate (run : Run) : Emitted Report :=
  run.generateTables {} run.initialReport run.plans

def ofModel (o : Options) (m : Model) (order : List String) (seed : UInt64) :
    Except GenerationError Run := do
  let o ← o.checked
  let plans ← TablePlan.ofOrder o m order
  return ⟨m, o, seed, plans⟩

end Run

/-- Generates the tables of a model in an order. Nothing is handed over if the options or a
directive are wrong. -/
def generateModel (o : Options) (m : Model) (order : List String) (seed : UInt64) :
    Emitted Report :=
  match Run.ofModel o m order seed with
  | .ok run => run.generate
  | .error e => ([], .error e)

structure Output where
  order : List String
  tables : Collected
  report : Report

/-- Generates the tables of a schema, each after those it references. -/
def run (s : Schema) (o : Options) (seed : UInt64) : Except GenerationError Output := do
  let o ← o.checked
  match s.compile with
  | .error found => throw (.analysis found)
  | .ok (m, order) =>
    match generateModel o m order seed with
    | (events, .ok report) => return ⟨order, .ofEvents events, report⟩
    | (_, .error e) => throw e

end Fixtures.Generation
