import Fixtures.Generation.Plan

namespace Fixtures.Generation

inductive TableState
  | pending
  | generating
  | complete
  | failed
  deriving DecidableEq, Repr

namespace TableState

def all : List TableState := [pending, generating, complete, failed]

def name : TableState → String
  | pending => "pending"
  | generating => "generating"
  | complete => "complete"
  | failed => "failed"

end TableState

structure TableReport where
  table : String
  state : TableState
  rowsRequested : Nat
  rowsGenerated : Nat := 0
  batches : Nat := 0
  batchSize : Nat := 0
  retries : Nat := 0
  /-- Values by the strategy that they come from, in the order of the names. -/
  usage : List (String × Nat) := []
  deriving DecidableEq, Repr

namespace TableReport

def pending (table : String) (rows : Nat) : TableReport :=
  { table, state := .pending, rowsRequested := rows }

def recordUsage (r : TableReport) (strategy : String) (count : Nat) : TableReport :=
  { r with
    usage := Json.insertMember strategy ((Json.lookup? strategy r.usage).getD 0 + count) r.usage }

def encode (r : TableReport) : Json :=
  .object [("table", .string r.table), ("state", .string r.state.name),
    ("rows_requested", .ofNat r.rowsRequested), ("rows_generated", .ofNat r.rowsGenerated),
    ("batches", .ofNat r.batches), ("batch_size", .ofNat r.batchSize),
    ("retries", .ofNat r.retries),
    ("strategy_usage", .object (r.usage.map fun u => (u.1, .ofNat u.2)))]

end TableReport

structure Report where
  seed : Nat
  tables : List TableReport := []
  retriesTotal : Nat := 0
  rowsTotal : Nat := 0
  warnings : List Diagnostic := []
  deriving DecidableEq, Repr

namespace Report

def empty (seed : Nat) : Report := { seed }

def table? (r : Report) (name : String) : Option TableReport :=
  r.tables.find? fun t => t.table = name

/-- The reports with one more, which takes the place of an earlier one about the same table. -/
def replace (report : TableReport) : List TableReport → List TableReport
  | [] => [report]
  | t :: ts => if t.table = report.table then report :: ts else t :: replace report ts

def recordTable (r : Report) (report : TableReport) : Report :=
  let tables := replace report r.tables
  { r with
    tables
    retriesTotal := total (tables.map TableReport.retries)
    rowsTotal := total (tables.map TableReport.rowsGenerated) }

def recordWarning (r : Report) (warning : Diagnostic) : Report :=
  { r with warnings := r.warnings ++ [warning] }

end Report

end Fixtures.Generation
