import Fixtures.Proofs.Generation.Batching

namespace Fixtures.Generation

structure Finished where
  table : Model.Table
  plan : TablePlan
  rows : List SampledRow

namespace TableReport

def unbatched (r : TableReport) : TableReport :=
  { r with batches := 0, batchSize := 0 }

end TableReport

namespace Report

def unbatched (r : Report) : Report :=
  { r with tables := r.tables.map TableReport.unbatched }

theorem unbatched_replace (report : TableReport) (tables : List TableReport) :
    (replace report tables).map TableReport.unbatched =
      replace report.unbatched (tables.map TableReport.unbatched) := by
  induction tables with
  | nil => rfl
  | cons t tables ih =>
    by_cases h : t.table = report.table
    · simp [replace, TableReport.unbatched, h]
    · simpa [replace, TableReport.unbatched, h] using ih

theorem unbatched_recordTable (r : Report) (report : TableReport) :
    (r.recordTable report).unbatched = r.unbatched.recordTable report.unbatched := by
  have hretries : ∀ tables : List TableReport,
      (tables.map TableReport.unbatched).map TableReport.retries =
        tables.map TableReport.retries := by
    simp [TableReport.unbatched]
  have hrows : ∀ tables : List TableReport,
      (tables.map TableReport.unbatched).map TableReport.rowsGenerated =
        tables.map TableReport.rowsGenerated := by
    simp [TableReport.unbatched]
  simp only [unbatched, recordTable, ← unbatched_replace, hretries, hrows]

end Report

namespace Finished

def records (f : Finished) : List Record :=
  f.rows.mapIdx fun i r => ⟨f.plan.name, i, f.plan.fieldNames, r.values⟩

def collected (f : Finished) : String × List Record :=
  (f.plan.name, f.records)

/-- The report of the table, without the number and the size of its batches. -/
def report (f : Finished) : TableReport :=
  let report : TableReport :=
    { table := f.plan.name
      state := .complete
      rowsRequested := f.plan.count
      rowsGenerated := f.rows.length
      retries := total (f.rows.map SampledRow.retries) }
  f.plan.sources.foldl (fun r s => r.recordUsage s.1 (s.2 * f.rows.length)) report

theorem unbatched_reportOf (job : TableJob) (rows : List SampledRow) (batches : Nat) :
    (job.reportOf rows batches).unbatched = report ⟨job.table, job.plan, rows⟩ :=
  (List.foldl_hom TableReport.unbatched fun _ _ => rfl).symm

theorem recordsFrom_zero (job : TableJob) (rows : List SampledRow) :
    job.recordsFrom 0 rows = records ⟨job.table, job.plan, rows⟩ := by
  simp [TableJob.recordsFrom, records]

end Finished

namespace Run

variable {run : Run} {done more : List Finished} {f g : Finished}

def referencesAfter (run : Run) (done : List Finished) : References :=
  done.foldl (fun r f => registerRows r f.table run.plans f.rows) {}

def jobAfter (run : Run) (done : List Finished) (f : Finished) : TableJob :=
  run.job f.table f.plan (run.referencesAfter done)

/-- A table that comes after finished ones: all of its rows are made one by one. -/
structure IsNext (run : Run) (done : List Finished) (f : Finished) : Prop where
  table : TablePlan.tableOf run.model f.plan.name = .ok f.table
  rows : (run.jobAfter done f).RowByRow f.rows
  count : f.rows.length = f.plan.count

inductive TableByTable (run : Run) : List Finished → Prop
  | start : TableByTable run []
  | next {done : List Finished} {f : Finished} : TableByTable run done → run.IsNext done f →
      TableByTable run (done ++ [f])

theorem IsNext.unique (hf : run.IsNext done f) (hg : run.IsNext done g) (hplan : f.plan = g.plan) :
    f = g := by
  obtain ⟨table, plan, rows⟩ := f
  obtain ⟨table', plan', rows'⟩ := g
  subst hplan
  have htable : table = table' := Except.ok.inj (hf.table.symm.trans hg.table)
  subst htable
  have hrows : rows = rows' := hf.rows.unique hg.rows (hf.count.trans hg.count.symm)
  rw [hrows]

theorem tableByTable_concat : run.TableByTable (done ++ [f]) ↔
    run.TableByTable done ∧ run.IsNext done f := by
  constructor
  · intro h
    generalize heq : done ++ [f] = all at h
    cases h with
    | start => simp at heq
    | next hdone hnext =>
      obtain ⟨rfl, hf⟩ := List.append_inj' heq rfl
      cases hf
      exact ⟨hdone, hnext⟩
  · rintro ⟨hdone, hnext⟩
    exact hdone.next hnext

theorem TableByTable.of_append (h : run.TableByTable (done ++ more)) : run.TableByTable done :=
  of_append_of_concat (fun _ _ hall => (tableByTable_concat.mp hall).1) h

theorem TableByTable.isNext (h : run.TableByTable (done ++ f :: more)) : run.IsNext done f := by
  have hall : run.TableByTable (done ++ [f] ++ more) := by simpa using h
  exact (tableByTable_concat.mp hall.of_append).2

theorem TableByTable.unique (hdone : run.TableByTable done) (hmore : run.TableByTable more)
    (hplans : done.map Finished.plan = more.map Finished.plan) : done = more := by
  induction hdone generalizing more with
  | start => simpa using hplans.symm
  | @next before f _ hf ih =>
    cases hmore with
    | start => simp at hplans
    | @next other g hother hg =>
      rw [List.map_append, List.map_append] at hplans
      obtain ⟨hbefore, hplan⟩ := List.append_inj' hplans rfl
      have heq := ih hother hbefore
      subst heq
      rw [hf.unique hg (by simpa using hplan)]

theorem TableByTable.not_stuck {plan : TablePlan} {rest : List TablePlan}
    (hall : run.TableByTable more) (hdone : run.TableByTable done)
    (hplans : more.map Finished.plan = done.map Finished.plan ++ plan :: rest) :
    ∃ f, f.plan = plan ∧ run.IsNext done f := by
  obtain ⟨before, after, rfl, hbefore, hafter⟩ := List.map_eq_append_iff.mp hplans
  obtain ⟨f, tail, rfl, hf, -⟩ := List.map_eq_cons_iff.mp hafter
  have heq := hall.of_append.unique hdone hbefore
  subst heq
  exact ⟨f, hf, hall.isNext⟩

theorem foldl_receive_generate {job : TableJob} {rows : List SampledRow} {report : TableReport}
    (h : job.generate.2 = .ok (rows, report)) (c : Collected) :
    job.generate.1.foldl Collected.receive c =
      c ++ [Finished.collected ⟨job.table, job.plan, rows⟩] := by
  obtain ⟨rows', -, hrecords, hdone⟩ := job.generate_sound
  obtain ⟨rfl, -⟩ := hdone rows report h
  obtain ⟨batches, hbatches, hevents⟩ := TableJob.generate_events h
  have hof : recordsOf job.generate.1 = recordsOf batches := by
    simp [hevents, recordsOf, Event.records]
  have hfoldl : job.generate.1.foldl Collected.receive c =
      batches.foldl Collected.receive (c ++ [(job.plan.name, [])]) := by
    rw [hevents, List.foldl_append]
    rfl
  rw [hfoldl, Collected.foldl_receive_batches hbatches, ← hof, hrecords, Finished.recordsFrom_zero]
  rfl

theorem finishedOf_generate {job : TableJob} {rows : List SampledRow} {report : TableReport}
    (h : job.generate.2 = .ok (rows, report)) : finishedOf job.generate.1 = [job.plan.name] := by
  obtain ⟨batches, hbatches, hevents⟩ := TableJob.generate_events h
  have hlast : finishedOf job.generate.1 = finishedOf batches ++ [job.plan.name] := by
    rw [hevents, finishedOf_append]
    rfl
  rw [hlast, finishedOf_batches hbatches, List.nil_append]

theorem referencesAfter_concat (run : Run) (done : List Finished) (f : Finished) :
    run.referencesAfter (done ++ [f]) =
      registerRows (run.referencesAfter done) f.table run.plans f.rows := by
  simp [referencesAfter]

/-- How tables come out that are generated after finished ones: all of them are made, or one of them
cannot come next. -/
inductive Outcome (run : Run) (done : List Finished) (report : Report) (plans : List TablePlan)
    (more : List Finished) : Emitted Report → Prop
  | complete {events : List Event} {final : Report} : more.map Finished.plan = plans →
      (∀ c, events.foldl Collected.receive c = c ++ more.map Finished.collected) →
      final.unbatched =
        more.foldl (fun r f => r.recordTable f.report) report.unbatched →
      Outcome run done report plans more (events, .ok final)
  | stopped {events : List Event} {e : GenerationError} {plan : TablePlan}
      {rest : List TablePlan} : plans = more.map Finished.plan ++ plan :: rest →
      (∀ f : Finished, f.plan = plan → ¬ run.IsNext (done ++ more) f) →
      Outcome run done report plans more (events, .error e)

theorem not_isNext_of_tableOf {plan : TablePlan} {e : GenerationError}
    (h : TablePlan.tableOf run.model plan.name = .error e) (hplan : f.plan = plan) :
    ¬ run.IsNext done f := by
  intro hnext
  have hf := hnext.table
  rw [hplan, h] at hf
  cases hf

theorem not_isNext_of_generate {table : Model.Table} {plan : TablePlan} {e : GenerationError}
    (htable : TablePlan.tableOf run.model plan.name = .ok table)
    (h : (run.job table plan (run.referencesAfter done)).generate.2 = .error e)
    (hplan : f.plan = plan) : ¬ run.IsNext done f := by
  intro hnext
  obtain ⟨table', plan', rows⟩ := f
  subst hplan
  have hsame : table = table' := Except.ok.inj (htable.symm.trans hnext.table)
  subst hsame
  obtain ⟨report, hok⟩ := TableJob.generate_complete hnext.rows hnext.count
  rw [jobAfter, h] at hok
  cases hok

theorem isNext_of_generate {table : Model.Table} {plan : TablePlan} {rows : List SampledRow}
    {tableReport : TableReport} (htable : TablePlan.tableOf run.model plan.name = .ok table)
    (h : (run.job table plan (run.referencesAfter done)).generate.2 = .ok (rows, tableReport)) :
    run.IsNext done ⟨table, plan, rows⟩ ∧
      tableReport.unbatched = Finished.report ⟨table, plan, rows⟩ := by
  obtain ⟨rows', hrows, -, hall⟩ :=
    (run.job table plan (run.referencesAfter done)).generate_sound
  obtain ⟨rfl, hcount, batches, rfl⟩ := hall rows tableReport h
  exact ⟨⟨htable, hrows, hcount⟩, Finished.unbatched_reportOf ..⟩

theorem Outcome.cons {report : Report} {tableReport : TableReport} {plans : List TablePlan}
    {events : List Event} {rest : Emitted Report}
    (h : run.Outcome (done ++ [f]) (report.recordTable tableReport) plans more rest)
    (hevents : ∀ c, events.foldl Collected.receive c = c ++ [f.collected])
    (hreport : tableReport.unbatched = f.report) :
    run.Outcome done report (f.plan :: plans) (f :: more) (events ++ rest.1, rest.2) := by
  cases h with
  | complete hplans hcollected hfinal =>
    refine .complete (by simp [hplans]) (fun c => ?_) ?_
    · simp [List.foldl_append, hevents, hcollected]
    · rw [hfinal, Report.unbatched_recordTable, hreport]
      rfl
  | stopped hplans hstuck =>
    exact .stopped (congrArg (f.plan :: ·) hplans) fun g hplan hg =>
      hstuck g hplan (by simpa using hg)

theorem outcome_generateTables (hdone : run.TableByTable done) (report : Report)
    (plans : List TablePlan) : ∃ more, run.TableByTable (done ++ more) ∧
      finishedOf (run.generateTables (run.referencesAfter done) report plans).1 =
        more.map (fun f => f.plan.name) ∧
      Outcome run done report plans more
        (run.generateTables (run.referencesAfter done) report plans) := by
  induction plans generalizing done report with
  | nil => exact ⟨[], by simpa using hdone, rfl, .complete rfl (by simp) rfl⟩
  | cons plan plans ih =>
    rw [generateTables]
    split
    · next e htable =>
      refine ⟨[], by simpa using hdone, rfl, .stopped rfl fun f hplan => ?_⟩
      exact not_isNext_of_tableOf htable hplan
    · next table htable =>
      split
      · next events e hgenerate =>
        have hfailed := congrArg Prod.snd hgenerate
        have hnone := TableJob.finishedOf_generate_of_error hfailed
        rw [hgenerate] at hnone
        refine ⟨[], by simpa using hdone, hnone, .stopped rfl fun f hplan => ?_⟩
        rw [List.append_nil]
        exact not_isNext_of_generate htable hfailed hplan
      · next events rows tableReport hgenerate =>
        have hok := congrArg Prod.snd hgenerate
        obtain ⟨hnext, hreport⟩ := isNext_of_generate htable hok
        have hcollect := foldl_receive_generate hok
        have hone := finishedOf_generate hok
        rw [hgenerate] at hcollect hone
        obtain ⟨more, hmore, hfinished, houtcome⟩ :=
          ih (hdone.next hnext) (report.recordTable tableReport)
        rw [referencesAfter_concat] at hfinished houtcome
        refine ⟨⟨table, plan, rows⟩ :: more, by simpa using hmore, ?_,
          houtcome.cons hcollect hreport⟩
        rw [finishedOf_append, hone, hfinished]
        rfl

end Run

end Fixtures.Generation
