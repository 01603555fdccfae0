import Fixtures.Proofs.Generation.RowByRow
import Fixtures.Proofs.Generation.TableByTable

namespace Fixtures.Generation

variable {committed rows : List SampledRow} {row first : Nat} {values : List Value} {s : SampledRow}
  {references : References} {options : Options}

namespace TableJob

variable {job other : TableJob}

/-- Jobs of one table and plan that draw the same values for every attempt. -/
structure Agrees (job other : TableJob) : Prop where
  values : ∀ row attempt, job.rowValues row attempt = other.rowValues row attempt
  table : job.table = other.table
  plan : job.plan = other.plan
  attempts : job.options.maxAttemptsRow = other.options.maxAttemptsRow

theorem Agrees.acceptable (h : job.Agrees other) (hacc : job.Acceptable committed values) :
    other.Acceptable committed values := by
  refine ⟨fun c hc => ?_, fun r hr => h.plan ▸ hacc.keys r hr⟩
  have hlookup : other.lookup values = job.lookup values := by
    unfold lookup
    rw [h.table]
  rw [hlookup]
  exact hacc.checks c (h.table ▸ hc)

theorem Agrees.symm (h : job.Agrees other) : other.Agrees job :=
  ⟨fun row attempt => (h.values row attempt).symm, h.table.symm, h.plan.symm, h.attempts.symm⟩

theorem Agrees.chosen (h : job.Agrees other) (hs : job.Chosen committed row first s) :
    other.Chosen committed row first s := by
  refine ⟨hs.reached, h.attempts ▸ hs.within, (h.values _ _).symm.trans hs.values,
    h.acceptable hs.acceptable, fun a hfirst ha => ?_⟩
  obtain ⟨values, hvalues, hrefused⟩ := hs.refused a hfirst ha
  exact ⟨values, (h.values _ _).symm.trans hvalues, fun hacc => hrefused (h.symm.acceptable hacc)⟩

theorem Agrees.rowByRow (h : job.Agrees other) (hrows : job.RowByRow rows) :
    other.RowByRow rows := by
  induction hrows with
  | start => exact .start
  | next _ hs hretries ih => exact ih.next (h.chosen hs) hretries

/-- Kept keys and options that make no difference to what a job draws: the sets that its foreign
keys point to are the same, and so are the numbers of attempts and the base of dates. -/
structure DrawsFrom (job : TableJob) (references : References) (options : Options) : Prop where
  sets : ∀ k ∈ job.plan.foreignKeys, references.set? k.targetTable k.targetFields =
    job.references.set? k.targetTable k.targetFields
  attemptsValue : options.maxAttemptsValue = job.options.maxAttemptsValue
  attemptsRow : options.maxAttemptsRow = job.options.maxAttemptsRow
  baseDate : options.baseDate = job.options.baseDate

theorem resolve_congr {r r' : References} {k : ForeignKeyPlan} (table : String)
    (h : r.set? k.targetTable k.targetFields = r'.set? k.targetTable k.targetFields) :
    r.resolve table k = r'.resolve table k := by
  unfold References.resolve
  rw [h]

theorem parentKey_congr {k : ForeignKeyPlan} (h : references.set? k.targetTable k.targetFields =
      job.references.set? k.targetTable k.targetFields) (attempts : Nat) (last : Nat × String) :
    { job with references, options }.parentKey k attempts last = job.parentKey k attempts last := by
  induction attempts generalizing last with
  | zero => rfl
  | succ attempts ih =>
    simp only [parentKey, ih, resolve_congr job.plan.name h]
    rfl

theorem foreignValues_congr {ks : List ForeignKeyPlan}
    (hvalue : options.maxAttemptsValue = job.options.maxAttemptsValue)
    (h : ∀ k ∈ ks, references.set? k.targetTable k.targetFields =
      job.references.set? k.targetTable k.targetFields) (values : List Value) :
    { job with references, options }.foreignValues values ks = job.foreignValues values ks := by
  induction ks generalizing values with
  | nil => rfl
  | cons k ks ih =>
    obtain ⟨hk, hks⟩ := List.forall_mem_cons.mp h
    simp only [foreignValues, ih hks, parentKey_congr hk, hvalue]

theorem DrawsFrom.fieldValues (h : job.DrawsFrom references options) (row attempt : Nat)
    (entries : List (FieldPlan × Model.Field × Value)) :
    { job with references, options }.fieldValues row attempt entries =
      job.fieldValues row attempt entries := by
  have hfield : ∀ plan field current,
      { job with references, options }.fieldValue row attempt plan field current =
        job.fieldValue row attempt plan field current := by
    intro plan field current
    simp only [fieldValue, h.attemptsValue, h.baseDate]
    rfl
  induction entries with
  | nil => rfl
  | cons entry entries ih => simp only [TableJob.fieldValues, ih, hfield]

theorem DrawsFrom.agrees (h : job.DrawsFrom references options) :
    job.Agrees { job with references, options } := by
  refine ⟨fun row attempt => ?_, rfl, rfl, h.attemptsRow.symm⟩
  simp only [rowValues, drawValues, foreignValues_congr h.attemptsValue h.sets, h.fieldValues]

end TableJob

end Fixtures.Generation

namespace Fixtures

/-- The options that say how rows are cut into batches, and how batches are sampled. -/
structure Batching where
  maxBatchSize : Nat
  batchMemoryCeiling : Nat
  parallel : Bool
  threads : Option Nat

namespace Options

def batching (o : Options) : Batching :=
  ⟨o.maxBatchSize, o.batchMemoryCeiling, o.parallel, o.threads⟩

def rebatched (o : Options) (b : Batching) : Options :=
  { o with
    maxBatchSize := b.maxBatchSize
    batchMemoryCeiling := b.batchMemoryCeiling
    parallel := b.parallel
    threads := b.threads }

end Options

namespace Generation

theorem strategyOf_rebatched (o : Options) (b : Batching) (k : StrategyKind) (p : Parameters) :
    StrategyConfig.strategyOf k p (o.rebatched b) = StrategyConfig.strategyOf k p o := by
  have hlocale : (o.rebatched b).locale = o.locale := rfl
  have hfaker : (o.rebatched b).faker = o.faker := rfl
  cases k with
  | faker =>
    simp only [StrategyConfig.strategyOf]
    delta StrategyConfig.locale
    rw [hlocale, hfaker]
  | random | sequential | pattern | default => rfl

theorem ofDirective_rebatched (o : Options) (b : Batching) (k : StrategyKind) (options : OptionMap)
    (subject : String) :
    StrategyConfig.ofDirective k options (o.rebatched b) subject =
      StrategyConfig.ofDirective k options o subject := by
  simp only [StrategyConfig.ofDirective, StrategyConfig.read, strategyOf_rebatched]

theorem ofTable_rebatched (o : Options) (b : Batching) (t : Model.Table) :
    TablePlan.ofTable (o.rebatched b) t = TablePlan.ofTable o t := by
  have hconfig : TablePlan.fieldConfig (o.rebatched b) t = TablePlan.fieldConfig o t := by
    funext general f
    simp only [TablePlan.fieldConfig, ofDirective_rebatched]
  simp only [TablePlan.ofTable, ofDirective_rebatched, hconfig]
  rfl

theorem ofOrder_rebatched (o : Options) (b : Batching) (m : Model) (order : List String) :
    TablePlan.ofOrder (o.rebatched b) m order = TablePlan.ofOrder o m order := by
  simp only [TablePlan.ofOrder, ofTable_rebatched]

namespace TableJob

def rebatched (job : TableJob) (b : Batching) : TableJob :=
  { job with options := job.options.rebatched b }

theorem agrees_rebatched (job : TableJob) (b : Batching) : job.Agrees (job.rebatched b) :=
  DrawsFrom.agrees ⟨fun _ _ => rfl, rfl, rfl, rfl⟩

end TableJob

namespace Run

variable {run : Run} {b : Batching} {done more other : List Finished} {f : Finished}

def rebatched (run : Run) (b : Batching) : Run :=
  { run with options := run.options.rebatched b }

theorem IsNext.rebatched (h : run.IsNext done f) (b : Batching) :
    (run.rebatched b).IsNext done f :=
  ⟨h.table, (TableJob.agrees_rebatched _ b).rowByRow h.rows, h.count⟩

theorem isNext_rebatched : (run.rebatched b).IsNext done f ↔ run.IsNext done f :=
  ⟨fun h => h.rebatched run.options.batching, fun h => h.rebatched b⟩

theorem tableByTable_rebatched :
    (run.rebatched b).TableByTable done ↔ run.TableByTable done := by
  constructor
  · intro h
    induction h with
    | start => exact .start
    | next _ hnext ih => exact ih.next (isNext_rebatched.mp hnext)
  · intro h
    induction h with
    | start => exact .start
    | next _ hnext ih => exact ih.next (isNext_rebatched.mpr hnext)

theorem Outcome.of_rebatched {report : Report} {plans : List TablePlan} {r : Emitted Report}
    (h : (run.rebatched b).Outcome done report plans more r) :
    run.Outcome done report plans more r := by
  cases h with
  | complete hplans hcollected hreport => exact .complete hplans hcollected hreport
  | stopped hplans hstuck =>
    exact .stopped hplans fun f hplan hnext => hstuck f hplan (isNext_rebatched.mpr hnext)

/-- A run that is stuck has finished all tables that another one of the same plans has finished. -/
theorem TableByTable.eq_of_stuck {plan : TablePlan} {rest after tail : List TablePlan}
    (hmore : run.TableByTable more) (hother : run.TableByTable other)
    (hplans : other.map Finished.plan = more.map Finished.plan ++ after)
    (hafter : plan :: rest = after ++ tail)
    (hstuck : ∀ f : Finished, f.plan = plan → ¬ run.IsNext more f) : more = other := by
  cases after with
  | nil => exact hmore.unique hother (by simpa using hplans.symm)
  | cons next after =>
    have hnext : plan = next := (List.cons.inj hafter).1
    subst hnext
    obtain ⟨f, hplan, hf⟩ := hother.not_stuck hmore hplans
    exact absurd hf (hstuck f hplan)

theorem Outcome.unique {report : Report} {plans : List TablePlan} {r r' : Emitted Report}
    (hmore : run.TableByTable more) (hother : run.TableByTable other)
    (h : run.Outcome [] report plans more r) (h' : run.Outcome [] report plans other r') :
    more = other ∧ (r.2.isOk = r'.2.isOk) := by
  cases h with
  | complete hplans =>
    cases h' with
    | complete hplans' => exact ⟨hmore.unique hother (hplans.trans hplans'.symm), rfl⟩
    | stopped hplans' hstuck =>
      obtain ⟨f, hplan, hf⟩ := hmore.not_stuck hother (hplans.trans hplans')
      exact absurd hf (hstuck f hplan)
  | stopped hplans hstuck =>
    cases h' with
    | complete hplans' =>
      obtain ⟨f, hplan, hf⟩ := hother.not_stuck hmore (hplans'.trans hplans)
      exact absurd hf (hstuck f hplan)
    | stopped hplans' hstuck' =>
      -- One of the two has finished at least the tables of the other, and then the other is not
      -- stuck.
      rcases List.append_eq_append_iff.mp (hplans.symm.trans hplans') with
        ⟨after, hafter, heq⟩ | ⟨after, hafter, heq⟩
      · exact ⟨hmore.eq_of_stuck hother hafter heq hstuck, rfl⟩
      · exact ⟨(hother.eq_of_stuck hmore hafter heq hstuck').symm, rfl⟩

/-- A run that is complete gives its tables and its report, whatever the batches are. -/
theorem Outcome.collected {report final : Report} {plans : List TablePlan} {events : List Event}
    (h : run.Outcome [] report plans more (events, .ok final)) :
    Collected.ofEvents events = more.map Finished.collected ∧
      final.unbatched = more.foldl (fun r f => r.recordTable f.report) report.unbatched := by
  cases h with
  | complete _ hcollected hreport =>
    exact ⟨(hcollected []).trans (List.nil_append _), hreport⟩

end Run

variable {s : Schema} {o : Options} {b : Batching} {seed : UInt64}

theorem checked_eq_ok (h : o.error? = none) : o.checked = .ok o := by
  simp [Options.checked, h]

inductive SameButBatches : Emitted Report → Emitted Report → Prop
  | complete {events events' : List Event} {report report' : Report} :
      Collected.ofEvents events = Collected.ofEvents events' →
      report.unbatched = report'.unbatched →
      SameButBatches (events, .ok report) (events', .ok report')
  | failed {events events' : List Event} {e e' : GenerationError} :
      SameButBatches (events, .error e) (events', .error e')

theorem generate_rebatched (run : Run) (b : Batching) :
    finishedOf run.generate.1 = finishedOf (run.rebatched b).generate.1 ∧
      SameButBatches run.generate (run.rebatched b).generate := by
  obtain ⟨more, hmore, hfinished, houtcome⟩ :=
    Run.outcome_generateTables (.start : run.TableByTable []) run.initialReport run.plans
  obtain ⟨other, hother, hfinished', houtcome'⟩ :=
    Run.outcome_generateTables (.start : (run.rebatched b).TableByTable []) run.initialReport
    run.plans
  obtain ⟨rfl, hok⟩ := houtcome.unique hmore (Run.tableByTable_rebatched.mp hother)
    houtcome'.of_rebatched
  refine ⟨hfinished.trans hfinished'.symm, ?_⟩
  have hsame : ∀ {r r' : Emitted Report}, run.Outcome [] run.initialReport run.plans more r →
      run.Outcome [] run.initialReport run.plans more r' → r.2.isOk = r'.2.isOk →
      SameButBatches r r' := by
    rintro ⟨events, result⟩ ⟨events', result'⟩ h h' hok
    cases result with
    | error e =>
      cases result' with
      | error e' => exact .failed
      | ok report' => cases hok
    | ok report =>
      cases result' with
      | error e' => cases hok
      | ok report' =>
        exact .complete (h.collected.1.trans h'.collected.1.symm)
          (h.collected.2.trans h'.collected.2.symm)
  exact hsame houtcome houtcome'.of_rebatched hok

theorem generateModel_rebatched (m : Model) (order : List String) (seed : UInt64)
    (ho : o.error? = none) (hb : (o.rebatched b).error? = none) :
    finishedOf (generateModel o m order seed).1 =
        finishedOf (generateModel (o.rebatched b) m order seed).1 ∧
      SameButBatches (generateModel o m order seed)
        (generateModel (o.rebatched b) m order seed) := by
  unfold generateModel Run.ofModel
  rw [checked_eq_ok ho, checked_eq_ok hb]
  simp only [bind, Except.bind, ofOrder_rebatched]
  cases TablePlan.ofOrder o m order with
  | error e => exact ⟨rfl, .failed⟩
  | ok plans => exact generate_rebatched ⟨m, o, seed, plans⟩ b

/-- The table on which a run fails: the first one in order that is not handed over to its end. -/
def failedTable? (s : Schema) (o : Options) (seed : UInt64) : Option String :=
  match s.compile with
  | .error _ => none
  | .ok (m, order) => order[(finishedOf (generateModel o m order seed).1).length]?

/-- An output without the numbers and the sizes of batches in its report. -/
def Output.unbatched (out : Output) : Output :=
  { out with report := out.report.unbatched }

theorem run_rebatched (ho : o.error? = none) (hb : (o.rebatched b).error? = none) :
    (run s (o.rebatched b) seed).toOption.map Output.unbatched =
        (run s o seed).toOption.map Output.unbatched ∧
      failedTable? s (o.rebatched b) seed = failedTable? s o seed := by
  unfold run failedTable?
  rw [checked_eq_ok ho, checked_eq_ok hb]
  simp only [bind, Except.bind]
  cases s.compile with
  | error found => exact ⟨rfl, rfl⟩
  | ok compiled =>
    obtain ⟨m, order⟩ := compiled
    obtain ⟨hfinished, hsame⟩ :=
      generateModel_rebatched m order seed ho hb
    simp only [hfinished, and_true]
    revert hsame
    generalize generateModel o m order seed = r
    generalize generateModel (o.rebatched b) m order seed = r'
    intro hsame
    cases hsame with
    | complete htables hreport =>
      simp [pure, Except.pure, Except.toOption, Output.unbatched, htables, hreport]
    | failed => rfl

/-- A table that is generated in batches comes out as the loop over single rows makes it, and fails
where the loop does. So neither batches nor threads change what a run gives, or where it fails. -/
theorem batched_eq_rowByRow :
    (∀ job : TableJob,
      match job.generate with
      | (events, .ok (rows, report)) =>
        job.RowByRow rows ∧ rows.length = job.plan.count ∧
          recordsOf events = job.recordsFrom 0 rows ∧
          report.retries = total (rows.map fun r => r.attempt - 1)
      | (events, .error _) =>
        (¬ ∃ rows, job.RowByRow rows ∧ rows.length = job.plan.count) ∧
          ∃ rows, job.RowByRow rows ∧ recordsOf events = job.recordsFrom 0 rows) ∧
    ∀ (s : Schema) (o : Options) (b : Batching) (seed : UInt64),
      o.error? = none → (o.rebatched b).error? = none →
      (run s (o.rebatched b) seed).toOption.map Output.unbatched =
          (run s o seed).toOption.map Output.unbatched ∧
        failedTable? s (o.rebatched b) seed = failedTable? s o seed := by
  refine ⟨fun job => ?_, fun s o b seed => run_rebatched⟩
  obtain ⟨rows, hrows, hrecords, hdone⟩ := job.generate_sound
  have hcomplete := fun all (h : job.RowByRow all) => TableJob.generate_complete h
  revert hrecords hdone hcomplete
  generalize job.generate = r
  obtain ⟨events, result⟩ := r
  intro hrecords hdone hcomplete
  cases result with
  | error e =>
    refine ⟨?_, rows, hrows, hrecords⟩
    rintro ⟨all, hall, hcount⟩
    obtain ⟨report, hok⟩ := hcomplete all hall hcount
    cases hok
  | ok result =>
    obtain ⟨all, report⟩ := result
    obtain ⟨rfl, hcount, batches, rfl⟩ := hdone all report rfl
    refine ⟨hrows, hcount, hrecords, ?_⟩
    rw [TableJob.retries_reportOf, List.map_congr_left hrows.retries]

def familySchema : Schema :=
  { name := "family"
    tables := [
      { name := "parent"
        fields := [{
          name := "id"
          dataType := .primitive .integer
          constraints := [.primaryKey none []] }]
        directive := some { count := some 2 } },
      { name := "child"
        fields := [{
          name := "parent"
          dataType := .primitive .integer
          constraints := [.unique none [], .foreignKey ⟨none, [], "parent", ["id"], none⟩] }]
        directive := some { count := some 2 } }] }

theorem exists_family_output :
    ∃ out, run familySchema {} 2 = .ok out ∧ out.report.retriesTotal = 1 := by
  have h : (run familySchema {} 2).toOption.map (fun out => out.report.retriesTotal) = some 1 := by
    decide +kernel
  obtain ⟨out, hout, hretries⟩ := Option.map_eq_some_iff.mp h
  exact ⟨out, toOption_eq_some.mp hout, hretries⟩

/-- Batches of a single row on one thread give the same rows, also after a retry. -/
theorem batched_eq_rowByRow_family :
    (∃ out, run familySchema {} 2 = .ok out ∧ out.report.retriesTotal = 1) ∧
      (run familySchema (({} : Options).rebatched ⟨1, 1, false, none⟩) 2).toOption.map
          Output.unbatched =
        (run familySchema {} 2).toOption.map Output.unbatched :=
  ⟨exists_family_output,
    (batched_eq_rowByRow.2 familySchema {} ⟨1, 1, false, none⟩ 2 (by decide +kernel)
      (by decide +kernel)).1⟩

end Generation

end Fixtures
