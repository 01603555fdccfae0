import Mathlib.Algebra.Order.Floor.Div
import Fixtures.Proofs.Generation.CommonTables
import Fixtures.Proofs.Generation.Delivery
import Fixtures.Proofs.Json.Ordered

namespace Fixtures.Generation

open Json

variable {s : Schema} {o : Options} {seed : UInt64} {out : Output} {t : Model.Table}
  {plan : TablePlan} {rows : List SampledRow} {count size start : Nat} {name : String}

section Usage

variable {usage counts : List (String × Nat)}

def counted (usage : List (String × Nat)) : Nat :=
  total (usage.map Prod.snd)

theorem counted_cons (u : String × Nat) : counted (u :: usage) = u.2 + counted usage := rfl

theorem lookup?_eq_none_of_lt (h : InOrder usage) (hlt : ∀ u ∈ usage.head?, name < u.1) :
    lookup? name usage = none := by
  cases usage with
  | nil => rfl
  | cons u usage =>
    obtain ⟨hu, -⟩ := List.pairwise_cons.mp h
    have hname : name < u.1 := hlt u rfl
    rw [lookup?_eq_none, List.map_cons, List.mem_cons, not_or]
    refine ⟨fun heq => String.lt_irrefl _ (heq ▸ hname), fun hmem => ?_⟩
    obtain ⟨v, hv, heq⟩ := List.mem_map.mp hmem
    exact String.lt_irrefl _ (heq ▸ String.lt_trans hname (hu v hv))

theorem counted_insertMember (h : InOrder usage) (name : String) (n : Nat) :
    counted (insertMember name ((lookup? name usage).getD 0 + n) usage) = counted usage + n := by
  induction usage with
  | nil => simp [insertMember, counted, total]
  | cons u usage ih =>
    obtain ⟨-, husage⟩ := List.pairwise_cons.mp h
    unfold insertMember
    split
    · next hlt =>
      rw [lookup?_eq_none_of_lt h (by simpa using hlt), counted_cons]
      simp only [Option.getD_none, Nat.zero_add]
      exact Nat.add_comm ..
    · split
      · next hsame =>
        rw [lookup?_cons, if_pos hsame.symm, counted_cons, counted_cons]
        simp only [Option.getD_some]
        omega
      · next hne =>
        rw [lookup?_cons, if_neg (Ne.symm hne), counted_cons, counted_cons, ih husage]
        exact (Nat.add_assoc ..).symm

theorem counted_tally (name : String) (n : Nat) (counts : List (String × Nat)) :
    counted (TablePlan.tally name n counts) = counted counts + n := by
  induction counts with
  | nil => simp [TablePlan.tally, counted, total]
  | cons c counts ih =>
    unfold TablePlan.tally
    split
    · rw [counted_cons, counted_cons]
      simp only
      omega
    · rw [counted_cons, counted_cons, ih]
      exact (Nat.add_assoc ..).symm

theorem counted_sources (plan : TablePlan) : counted plan.sources = plan.fields.length := by
  have hfold : ∀ (fields : List FieldPlan) counts,
      counted (fields.foldl
        (fun counts f => TablePlan.tally (TablePlan.sourceOf f) 1 counts) counts) =
        counted counts + fields.length := by
    intro fields
    induction fields with
    | nil => exact fun _ => rfl
    | cons f fields ih =>
      intro counts
      rw [List.foldl_cons, ih, counted_tally, List.length_cons]
      omega
  have hall := hfold plan.fields []
  rwa [show counted [] = 0 from rfl, Nat.zero_add] at hall

theorem exists_usage (r : TableReport) (h : InOrder r.usage) (sources : List (String × Nat))
    (n : Nat) :
    ∃ usage, sources.foldl (fun r s => r.recordUsage s.1 (s.2 * n)) r = { r with usage } ∧
      counted usage = counted r.usage + counted sources * n := by
  induction sources generalizing r with
  | nil => exact ⟨r.usage, rfl, by simp [counted, total]⟩
  | cons source sources ih =>
    obtain ⟨usage, hfold, hcounted⟩ :=
      ih (r.recordUsage source.1 (source.2 * n)) (inOrder_insertMember h)
    refine ⟨usage, hfold, ?_⟩
    rw [hcounted, TableReport.recordUsage, counted_insertMember h, counted_cons, Nat.add_mul,
      Nat.add_assoc]

end Usage

theorem Completes.length_batches {table : String} {batches : List (List Record)} (hsize : 0 < size)
    (h : Completes table size count start batches) : batches.length = (count - start) ⌈/⌉ size := by
  rw [← h.length, Nat.ceilDiv_eq_add_pred_div]
  rcases List.eq_nil_or_concat' batches with rfl | ⟨full, last, rfl⟩
  · simp only [List.flatten_nil, List.length_nil, Nat.zero_add]
    exact (Nat.div_eq_of_lt (by omega)).symm
  · have hfull : full.map List.length = List.replicate full.length size := by
      refine List.map_eq_replicate_iff.mpr fun b hb => h.full b ?_
      rwa [List.dropLast_concat]
    obtain ⟨hpos, hle⟩ := h.bounds last (by simp)
    rw [List.length_append, List.length_singleton, List.flatten_append, List.length_append,
      List.length_flatten, hfull, List.sum_replicate_nat, List.flatten_singleton]
    refine (Nat.div_eq_of_lt_le ?_ ?_).symm
    · rw [Nat.succ_mul]
      omega
    · rw [Nat.succ_mul, Nat.succ_mul]
      omega

theorem exists_reportOf (job : TableJob) (rows : List SampledRow) (batches : Nat) :
    ∃ usage, job.reportOf rows batches =
      { table := job.plan.name, state := .complete, rowsRequested := job.plan.count,
        rowsGenerated := rows.length, batches, batchSize := job.batchSize,
        retries := total (rows.map SampledRow.retries), usage } ∧
      counted usage = job.plan.fields.length * rows.length := by
  obtain ⟨usage, hfold, hcounted⟩ := exists_usage
    { table := job.plan.name, state := .complete, rowsRequested := job.plan.count,
      rowsGenerated := rows.length, batches, batchSize := job.batchSize,
      retries := total (rows.map SampledRow.retries) } .nil job.plan.sources rows.length
  refine ⟨usage, hfold, ?_⟩
  rw [hcounted, counted_sources]
  exact Nat.zero_add _

theorem report_of_generate {job : TableJob} {report : TableReport}
    (h : job.generate.2 = .ok (rows, report)) : rows.length = job.plan.count ∧
      report = job.reportOf rows (job.plan.count ⌈/⌉ job.batchSize) := by
  obtain ⟨rows', -, -, hdone⟩ := job.generate_sound
  obtain ⟨rfl, hcount, -⟩ := hdone rows report h
  refine ⟨hcount, ?_⟩
  have hcut := job.cut_generateFrom 0 (.ofKeys job.plan.keys)
  unfold TableJob.generate at h
  cases hparent : job.emptyParent? with
  | some target =>
    rw [hparent] at h
    cases h
  | none =>
    rw [hparent] at h
    simp only at h
    generalize job.generateFrom 0 (.ofKeys job.plan.keys) = result at hcut h
    cases hcut with
    | complete hcompletes =>
      cases h
      have hsize : 0 < job.batchSize := Nat.le_max_left ..
      rw [List.length_map, hcompletes.length_batches hsize, Nat.sub_zero]
    | broken => cases h

/-- What a report says of a table that is finished: all rows that are asked for were generated, in
as many batches as that takes, and each of their values is counted for one strategy. -/
structure TableReport.Describes (o : Options) (t : Model.Table) (records : List Record)
    (r : TableReport) : Prop where
  table : r.table = t.name
  state : r.state = .complete
  rowsRequested : r.rowsRequested = rowsOf o t
  rowsGenerated : r.rowsGenerated = records.length
  length : records.length = rowsOf o t
  batchSize : r.batchSize = batchSizeOf o t
  batches : r.batches = records.length ⌈/⌉ batchSizeOf o t
  usage : counted r.usage = t.fields.length * records.length

theorem describes_of_generate {job : TableJob} {report : TableReport} {records : List Record}
    (h : job.generate.2 = .ok (rows, report))
    (hplan : TablePlan.ofTable job.options job.table = .ok job.plan)
    (hrecords : records.length = rows.length) :
    report.Describes job.options job.table records := by
  obtain ⟨hlength, hreport⟩ := report_of_generate h
  obtain ⟨usage, hof, husage⟩ := exists_reportOf job rows (job.plan.count ⌈/⌉ job.batchSize)
  have hcount : job.plan.count = rowsOf job.options job.table := count_of_ofTable hplan
  have hplanned := isOf_of_ofTable hplan
  rw [hreport, hof]
  refine ⟨hplanned.name, rfl, hcount, hrecords.symm, hrecords.trans (hlength.trans hcount), rfl, ?_,
    ?_⟩
  · rw [hrecords, hlength]
    rfl
  · rw [hrecords, ← hplanned.length]
    exact husage

namespace Report

variable {r : Report} {report : TableReport} {reports front pending : List TableReport}

structure Summed (r : Report) : Prop where
  rows : r.rowsTotal = total (r.tables.map TableReport.rowsGenerated)
  retries : r.retriesTotal = total (r.tables.map TableReport.retries)

theorem summed_recordTable (r : Report) (report : TableReport) : (r.recordTable report).Summed :=
  ⟨rfl, rfl⟩

theorem summed_recordTables (h : r.Summed) (reports : List TableReport) :
    (reports.foldl recordTable r).Summed := by
  induction reports generalizing r with
  | nil => exact h
  | cons report reports ih => exact ih (summed_recordTable r report)

theorem warnings_recordTables (r : Report) (reports : List TableReport) :
    (reports.foldl recordTable r).warnings = r.warnings := by
  induction reports generalizing r with
  | nil => rfl
  | cons report reports ih => exact ih (r.recordTable report)

theorem recordWarnings_eq (r : Report) (warnings : List Diagnostic) :
    warnings.foldl recordWarning r = { r with warnings := r.warnings ++ warnings } := by
  induction warnings generalizing r with
  | nil => rw [List.append_nil, List.foldl_nil]
  | cons warning warnings ih =>
    rw [List.foldl_cons, ih, List.append_cons r.warnings]
    rfl

theorem replace_append (h : ∀ entry ∈ front, entry.table ≠ report.table) :
    replace report (front ++ pending) = front ++ replace report pending := by
  induction front with
  | nil => rfl
  | cons entry front ih =>
    obtain ⟨hentry, hfront⟩ := List.forall_mem_cons.mp h
    rw [List.cons_append, replace, if_neg hentry, ih hfront, List.cons_append]

/-- Tables that are recorded one after the other take the places that are kept for them, or new ones
at the end. -/
theorem tables_recordTables (htables : r.tables = front ++ pending)
    (hpending : pending.map TableReport.table <+: reports.map TableReport.table)
    (hnodup : (front.map TableReport.table ++ reports.map TableReport.table).Nodup) :
    (reports.foldl recordTable r).tables = front ++ reports := by
  induction reports generalizing r front pending with
  | nil => simpa [htables] using hpending
  | cons report reports ih =>
    have hfront : ∀ entry ∈ front, entry.table ≠ report.table := fun entry hentry =>
      (List.nodup_append.mp hnodup).2.2 _ (List.mem_map_of_mem hentry) _ List.mem_cons_self
    have hreplaced : (r.recordTable report).tables = front ++ replace report pending := by
      rw [← replace_append hfront, ← htables]
      rfl
    have hmore : ((front ++ [report]).map TableReport.table ++
        reports.map TableReport.table).Nodup := by
      simpa using hnodup
    rw [List.foldl_cons, List.append_cons]
    cases pending with
    | nil =>
      have hlast : (r.recordTable report).tables = (front ++ [report]) ++ [] :=
        hreplaced.trans (List.append_nil _).symm
      exact ih hlast List.nil_prefix hmore
    | cons entry pending =>
      obtain ⟨hsame, hpending⟩ := List.cons_prefix_cons.mp hpending
      refine ih (hreplaced.trans ?_) hpending hmore
      rw [replace, if_pos hsame, List.append_cons]

/-- Different tables take all places, if these are kept for some of the first of them. -/
theorem tables_recordTables_of_nodup (htables : r.tables = pending)
    (hpending : pending.map TableReport.table <+: reports.map TableReport.table)
    (hnodup : (reports.map TableReport.table).Nodup) :
    (reports.foldl recordTable r).tables = reports :=
  tables_recordTables (htables.trans (List.nil_append pending).symm) hpending hnodup

end Report

namespace Run

variable {run : Run} {report : TableReport}

/-- What is reported of the table of a plan when all its rows are there. -/
def Reports (run : Run) (plan : TablePlan) (report : TableReport) : Prop :=
  ∃ t references rows, TablePlan.tableOf run.model plan.name = .ok t ∧
    (run.job t plan references).generate.2 = .ok (rows, report)

theorem Reports.table (h : run.Reports plan report) : report.table = plan.name := by
  obtain ⟨t, references, rows, -, hgenerate⟩ := h
  obtain ⟨usage, hof, -⟩ := exists_reportOf (run.job t plan references) rows
    (plan.count ⌈/⌉ (run.job t plan references).batchSize)
  rw [(report_of_generate hgenerate).2]
  exact congrArg TableReport.table hof

theorem exists_reports_of_generateTables {references : References} {start final : Report}
    {plans : List TablePlan} (h : (run.generateTables references start plans).2 = .ok final) :
    ∃ reports : List TableReport, reports.map TableReport.table = plans.map TablePlan.name ∧
      (∀ plan ∈ plans, ∃ report ∈ reports, run.Reports plan report) ∧
      final = reports.foldl Report.recordTable start := by
  induction plans generalizing references start with
  | nil =>
    cases h
    exact ⟨[], rfl, by simp, rfl⟩
  | cons plan plans ih =>
    rw [generateTables] at h
    split at h
    · cases h
    · next t ht =>
      split at h
      · cases h
      · next events rows report hgenerate =>
        obtain ⟨reports, hnames, hall, hfinal⟩ := ih h
        have hreport : run.Reports plan report :=
          ⟨t, references, rows, ht, congrArg Prod.snd hgenerate⟩
        refine ⟨report :: reports, ?_, List.forall_mem_cons.mpr ⟨?_, fun p hp => ?_⟩, hfinal⟩
        · rw [List.map_cons, List.map_cons, hnames, hreport.table]
        · exact ⟨report, List.mem_cons_self, hreport⟩
        · obtain ⟨other, hother, hof⟩ := hall p hp
          exact ⟨other, List.mem_cons_of_mem _ hother, hof⟩

theorem initialReport_eq (run : Run) :
    run.initialReport =
      (run.plans.map fun p => TableReport.pending p.name p.count).foldl Report.recordTable
        { seed := run.seed.toNat, warnings := run.model.warnings } := by
  rw [initialReport, Report.recordWarnings_eq, List.foldl_map]
  rfl

/-- The report of a run of different tables has the entries of the tables in the order of the
plans. -/
theorem exists_reports_of_generate {final : Report} (h : run.generate.2 = .ok final)
    (hnodup : (run.plans.map TablePlan.name).Nodup) :
    final.tables.map TableReport.table = run.plans.map TablePlan.name ∧
      (∀ plan ∈ run.plans, ∃ report ∈ final.tables, run.Reports plan report) ∧
      final.Summed ∧ final.warnings = run.model.warnings := by
  obtain ⟨reports, hnames, hall, rfl⟩ := exists_reports_of_generateTables h
  have hpending :
      (run.plans.map fun p => TableReport.pending p.name p.count).map TableReport.table =
        run.plans.map TablePlan.name := by
    simp [TableReport.pending]
  have hinitial : run.initialReport.tables =
      run.plans.map fun p => TableReport.pending p.name p.count := by
    rw [initialReport_eq]
    refine Report.tables_recordTables_of_nodup rfl List.nil_prefix ?_
    rwa [hpending]
  have htables : (reports.foldl Report.recordTable run.initialReport).tables = reports := by
    refine Report.tables_recordTables_of_nodup hinitial ?_ ?_
    · rw [hpending, hnames]
    · rwa [hnames]
  have hsummed : run.initialReport.Summed := by
    rw [initialReport_eq]
    exact Report.summed_recordTables ⟨rfl, rfl⟩ _
  refine ⟨by rw [htables, hnames], by rwa [htables], Report.summed_recordTables hsummed _, ?_⟩
  rw [Report.warnings_recordTables, initialReport_eq, Report.warnings_recordTables]

end Run

/-- What a report says of the output that it comes with and of the model that this is made for. -/
structure Output.IsReported (o : Options) (m : Model) (out : Output) : Prop where
  /-- One entry for each table, in the order of generation. -/
  entries : out.report.tables.map TableReport.table = out.order
  tables : out.tables.map Prod.fst = out.order
  once : out.order.Perm m.tableNames
  describes : ∀ entry ∈ out.tables, ∃ t report, m.table? entry.1 = some t ∧
    out.report.table? entry.1 = some report ∧ report.Describes o t entry.2
  summed : out.report.Summed
  warnings : out.report.warnings = m.warnings

theorem Planned.generate {run : Run} {done : List Finished} (h : Planned o seed out run done)
    (hcomplete : Complete s out run done) (hout : Generation.run s o seed = .ok out) :
    run.generate.2 = .ok out.report := by
  obtain ⟨o', ho, hrun⟩ := bind_eq_ok.mp hout
  obtain rfl := eq_of_checked ho
  have hplans := h.ofOrder
  rw [h.options] at hplans
  have hmodel : Run.ofModel o' run.model out.order seed = .ok run := by
    refine bind_eq_ok.mpr ⟨o', ho, bind_eq_ok.mpr ⟨run.plans, hplans, ?_⟩⟩
    rw [← h.options, ← h.seed]
    rfl
  rw [hcomplete.compiled] at hrun
  simp only [generateModel_of_ok hmodel] at hrun
  split at hrun
  · next events report hgenerate =>
    rw [hgenerate, ← Except.ok.inj hrun]
  · cases hrun

theorem Complete.count_of_mem {run : Run} {done : List Finished} {f : Finished}
    (h : Complete s out run done) (hf : f ∈ done) : f.rows.length = f.plan.count := by
  obtain ⟨before, after, rfl⟩ := List.append_of_mem hf
  exact h.finished.isNext.count

theorem describes_of_reports {run : Run} {f : Finished} {report : TableReport}
    (hf : f.IsOf run.model) (hplan : TablePlan.ofTable run.options f.table = .ok f.plan)
    (hcount : f.rows.length = f.plan.count) (h : run.Reports f.plan report) :
    report.Describes run.options f.table f.records := by
  obtain ⟨t, references, rows, ht, hgenerate⟩ := h
  have hsame := table?_of_tableOf ht
  rw [hf.table] at hsame
  cases hsame
  have hlength := (report_of_generate hgenerate).1
  refine describes_of_generate hgenerate hplan ?_
  rw [Finished.records, List.length_mapIdx, hcount]
  exact hlength.symm

/-- A run that succeeds comes with a report that agrees with its output. -/
theorem report_matches_output (h : Generation.run s o seed = .ok out) :
    ∃ m, s.compile = .ok (m, out.order) ∧ out.IsReported o m := by
  obtain ⟨run, done, hcomplete, hplanned⟩ := exists_planned h
  have hnames : run.plans.map TablePlan.name = out.order := names_of_ofOrder hplanned.ofOrder
  have hnodup : (run.plans.map TablePlan.name).Nodup := by
    rw [hnames, ← hcomplete.names hplanned]
    exact hcomplete.nodup_names hplanned
  obtain ⟨hentries, hreports, hsummed, hwarnings⟩ :=
    Run.exists_reports_of_generate (hplanned.generate hcomplete h) hnodup
  refine ⟨run.model, hcomplete.compiled, hentries.trans hnames, ?_, ?_, fun entry hentry => ?_,
    hsummed, hwarnings⟩
  · rw [hcomplete.collected, List.map_map, ← hnames, ← hplanned.plans, List.map_map]
    rfl
  · rw [List.perm_ext_iff_of_nodup (hnames ▸ hnodup) hcomplete.model.nodup_tableNames]
    intro name
    rw [(isOrder_of_compile hcomplete.compiled).perm.mem_iff, DependencyGraph.mem_declaredNames,
      ← List.mem_map, Model.references, List.map_map]
    rfl
  · obtain ⟨f, hf, hname, hrecords⟩ := hcomplete.exists_finished hentry
    have hplan : f.plan ∈ run.plans := hplanned.plans ▸ List.mem_map_of_mem hf
    obtain ⟨report, hreport, hof⟩ := hreports f.plan hplan
    have hdescribes := describes_of_reports (hcomplete.planned f hf)
      (isOf_of_tableByTable hplanned.ofOrder hcomplete.finished hplan hf).2
      (hcomplete.count_of_mem hf) hof
    rw [hplanned.options, hrecords] at hdescribes
    refine ⟨f.table, report, ?_, ?_, hdescribes⟩
    · rw [← hname]
      exact (hcomplete.planned f hf).table?_name
    · rw [← hname, ← hdescribes.table]
      exact find?_of_mem_of_nodup (hentries ▸ hnodup) hreport

/-- Letters, which have no key, are warned about. Houses and tenants take two batches of a single
row each. -/
theorem report_matches_output_post : ∃ out m,
    Generation.run postSchema { maxBatchSize := 1 } 1 = .ok out ∧
    out.report.tables.map TableReport.batches = [2, 1, 2] ∧ out.report.rowsTotal = 5 ∧
    out.report.retriesTotal = 1 ∧ out.report.warnings.length = 1 ∧
    out.IsReported { maxBatchSize := 1 } m := by
  have h : (Generation.run postSchema { maxBatchSize := 1 } 1).toOption.map (fun out =>
      (out.report.tables.map TableReport.batches, out.report.rowsTotal, out.report.retriesTotal,
        out.report.warnings.length)) = some ([2, 1, 2], 5, 1, 1) := by
    decide +kernel
  obtain ⟨out, hout, hfound⟩ := Option.map_eq_some_iff.mp h
  simp only [Prod.mk.injEq] at hfound
  obtain ⟨hbatches, hrows, hretries, hwarnings⟩ := hfound
  have hrun := toOption_eq_some.mp hout
  obtain ⟨m, -, hreported⟩ := report_matches_output hrun
  exact ⟨out, m, hrun, hbatches, hrows, hretries, hwarnings, hreported⟩

end Fixtures.Generation
