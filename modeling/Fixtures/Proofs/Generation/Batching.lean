import Fixtures.Generation.Event
import Fixtures.Proofs.Generation.Commit
import Fixtures.Proofs.Generation.RowValues

namespace Fixtures.Generation

namespace Event

def records : Event → List Record
  | batch _ records => records
  | begin .. | finish _ => []

def finished? : Event → Option String
  | finish table => some table
  | begin .. | batch .. => none

def IsBatchOf (table : String) (e : Event) : Prop :=
  ∃ records, e = .batch table records

end Event

def recordsOf (events : List Event) : List Record :=
  events.flatMap Event.records

def finishedOf (events : List Event) : List String :=
  events.filterMap Event.finished?

variable {table : String} {batches : List Event} {c : Collected} {rows : List Record}

theorem finishedOf_append (a b : List Event) :
    finishedOf (a ++ b) = finishedOf a ++ finishedOf b := by
  simp [finishedOf]

theorem finishedOf_batches (h : ∀ e ∈ batches, e.IsBatchOf table) : finishedOf batches = [] := by
  rw [finishedOf, List.filterMap_eq_nil_iff]
  intro e he
  obtain ⟨records, rfl⟩ := h e he
  rfl

namespace Collected

theorem addRows_concat (c : Collected) (table : String) (rows records : List Record) :
    addRows table records (c ++ [(table, rows)]) = c ++ [(table, rows ++ records)] := by
  induction c with
  | nil => simp [addRows]
  | cons t c ih =>
    cases c with
    | nil => simp [addRows]
    | cons u c =>
      rw [List.cons_append, List.cons_append] at *
      simpa [addRows] using ih

theorem foldl_receive_batches (h : ∀ e ∈ batches, e.IsBatchOf table) :
    batches.foldl receive (c ++ [(table, rows)]) = c ++ [(table, rows ++ recordsOf batches)] := by
  induction batches generalizing rows with
  | nil => simp [recordsOf]
  | cons e batches ih =>
    obtain ⟨records, rfl⟩ := h e List.mem_cons_self
    rw [List.foldl_cons, receive, addRows_concat, ih fun e he => h e (List.mem_cons_of_mem _ he)]
    simp [recordsOf, Event.records]

end Collected

end Fixtures.Generation

namespace Fixtures.Generation.TableJob

variable {job : TableJob} {committed rows : List SampledRow} {next : KeyTracker} {count : Nat}

theorem isOk_of_commitRows {taken : KeyTracker}
    {sampled : List (Nat × Except GenerationError SampledRow)}
    {result : List SampledRow × KeyTracker}
    (h : job.commitRows taken sampled = .ok result) : ∀ s ∈ sampled, ∃ row, s.2 = .ok row := by
  induction sampled generalizing taken result with
  | nil => simp
  | cons s rest ih =>
    simp only [commitRows, bind_eq_ok, Prod.exists] at h
    obtain ⟨row, hrow, _, _, _, _, _, hrest, _⟩ := h
    exact List.forall_mem_cons.mpr ⟨⟨row, hrow⟩, ih hrest⟩

theorem generateBatch_eq_ok (hrows : job.RowByRow committed) :
    job.generateBatch (job.takenBy committed) (List.range' committed.length count) =
        .ok (rows, next) ↔
      job.RowByRow (committed ++ rows) ∧ rows.length = count ∧
        next = job.takenBy (committed ++ rows) := by
  have hbase : job.RowByRow (committed ++ []) := by simpa using hrows
  have hcommit : job.commitRows (job.takenBy committed)
        (job.samples committed committed.length count) = .ok (rows, next) ↔
      job.RowByRow (committed ++ rows) ∧ rows.length = count ∧
        next = job.takenBy (committed ++ rows) := by
    simpa only [List.append_nil] using commitRows_eq_ok hbase
  rw [← hcommit]
  unfold generateBatch
  simp only
  split
  · next f hfault =>
    simp only [reduceCtorEq, false_iff]
    intro h
    obtain ⟨s, hs, hf⟩ := List.exists_of_findSome?_eq_some hfault
    obtain ⟨row, hrow⟩ := isOk_of_commitRows h s hs
    rw [hrow] at hf
    cases hf
  · exact Iff.rfl

theorem recordsFrom_append (job : TableJob) (start : Nat) (rows more : List SampledRow) :
    job.recordsFrom start (rows ++ more) =
      job.recordsFrom start rows ++ job.recordsFrom (start + rows.length) more := by
  simp [recordsFrom, List.mapIdx_append, Nat.add_comm, Nat.add_left_comm]

theorem rows_batchFrom (job : TableJob) (start : Nat) :
    (job.batchFrom start).rows = List.range' start (job.batchFrom start).length := rfl

theorem stop_batchFrom (job : TableJob) (start : Nat) :
    (job.batchFrom start).stop = start + (job.batchFrom start).length := rfl

theorem batchFrom_length_le (job : TableJob) (start : Nat) :
    (job.batchFrom start).length ≤ job.plan.count - start :=
  Nat.min_le_right _ _

theorem batchFrom_length_pos (job : TableJob) {start : Nat} (h : start < job.plan.count) :
    0 < (job.batchFrom start).length := by
  simp only [batchFrom, Batch.spanFrom]
  omega

theorem generateFrom_of_lt {start : Nat} {taken : KeyTracker} (h : start < job.plan.count) :
    job.generateFrom start taken =
      match job.generateBatch taken (job.batchFrom start).rows with
      | .error e => ([], .error e)
      | .ok (rows, next) =>
        let rest := job.generateFrom (job.batchFrom start).stop next
        (.batch job.plan.name (job.recordsFrom start rows) :: rest.1, rest.2.map (rows ++ ·)) :=
  (generateFrom.eq_def job start taken).trans (if_pos h)

theorem generateFrom_of_le {start : Nat} {taken : KeyTracker} (h : job.plan.count ≤ start) :
    job.generateFrom start taken = ([], .ok []) := by
  rw [generateFrom, if_neg (Nat.not_lt.mpr h)]

/-- The batches hand over rows of the loop, and if none of them fails these are all rows. -/
theorem generateFrom_sound (hrows : job.RowByRow committed)
    (hle : committed.length ≤ job.plan.count) :
    ∃ rows, job.RowByRow (committed ++ rows) ∧
      recordsOf (job.generateFrom committed.length (job.takenBy committed)).1 =
        job.recordsFrom committed.length rows ∧
      ∀ all, (job.generateFrom committed.length (job.takenBy committed)).2 = .ok all →
        all = rows ∧ (committed ++ rows).length = job.plan.count := by
  -- A batch is never empty, so fewer rows are left after it.
  induction hn : job.plan.count - committed.length using Nat.strongRecOn generalizing committed with
  | ind n ih =>
    subst hn
    rcases Nat.lt_or_ge committed.length job.plan.count with hlt | hge
    · rw [generateFrom_of_lt hlt, rows_batchFrom]
      cases hbatch : job.generateBatch (job.takenBy committed)
          (List.range' committed.length (job.batchFrom committed.length).length) with
      | error e => exact ⟨[], by simpa using hrows, rfl, fun all h => by cases h⟩
      | ok result =>
        obtain ⟨batch, next⟩ := result
        obtain ⟨hbatchRows, hlength, rfl⟩ := (generateBatch_eq_ok hrows).mp hbatch
        have hbound := job.batchFrom_length_le committed.length
        have hpos := job.batchFrom_length_pos hlt
        have hstop : (job.batchFrom committed.length).stop = (committed ++ batch).length := by
          rw [stop_batchFrom, List.length_append, hlength]
        obtain ⟨rows, hall, hrecords, hdone⟩ :=
          ih _ (by simp; omega) hbatchRows (by simp; omega) rfl
        refine ⟨batch ++ rows, by simpa using hall, ?_, ?_⟩
        · simp only [recordsOf, List.flatMap_cons, Event.records, hstop] at hrecords ⊢
          rw [hrecords, recordsFrom_append, List.length_append]
        · intro all h
          simp only [hstop] at h
          cases hrest : (job.generateFrom (committed ++ batch).length
              (job.takenBy (committed ++ batch))).2 with
          | error e => simp only [hrest, Except.map, reduceCtorEq] at h
          | ok more =>
            obtain ⟨rfl, hcount⟩ := hdone more hrest
            simp only [hrest, Except.map, Except.ok.injEq] at h
            exact ⟨h.symm, by simpa [Nat.add_assoc] using hcount⟩
    · rw [generateFrom_of_le hge]
      refine ⟨[], by simpa using hrows, rfl, fun all h => ?_⟩
      cases h
      exact ⟨rfl, by simp; omega⟩

theorem generateFrom_complete (hrows : job.RowByRow (committed ++ rows))
    (hcount : (committed ++ rows).length = job.plan.count) :
    (job.generateFrom committed.length (job.takenBy committed)).2 = .ok rows := by
  -- The first batch is a part of the rows, and the same holds after it of the others.
  induction hn : rows.length using Nat.strongRecOn generalizing committed rows with
  | ind n ih =>
    subst hn
    rw [List.length_append] at hcount
    rcases Nat.eq_zero_or_pos rows.length with hzero | hpos
    · rw [generateFrom_of_le (by omega), List.eq_nil_of_length_eq_zero hzero]
    · have hlt : committed.length < job.plan.count := by omega
      have hbound := job.batchFrom_length_le committed.length
      have hbatchPos := job.batchFrom_length_pos hlt
      let size := (job.batchFrom committed.length).length
      have hsplit : rows.take size ++ rows.drop size = rows := List.take_append_drop _ _
      have hall : job.RowByRow (committed ++ rows.take size ++ rows.drop size) := by
        rwa [List.append_assoc, hsplit]
      have hlength : (rows.take size).length = size := by
        rw [List.length_take]
        omega
      have hbatch := (generateBatch_eq_ok hrows.of_append).mpr ⟨hall.of_append, hlength, rfl⟩
      have hstop : (job.batchFrom committed.length).stop =
          (committed ++ rows.take size).length := by
        rw [stop_batchFrom, List.length_append, hlength]
      have hrest := ih (rows.drop size).length (by rw [List.length_drop]; omega) hall
        (by rw [List.append_assoc, hsplit, List.length_append]; omega) rfl
      rw [generateFrom_of_lt hlt, rows_batchFrom, hbatch]
      simp only [hstop, hrest, Except.map, hsplit]

theorem generateFrom_batches (job : TableJob) (start : Nat) (taken : KeyTracker) :
    ∀ e ∈ (job.generateFrom start taken).1, e.IsBatchOf job.plan.name := by
  induction hn : job.plan.count - start using Nat.strongRecOn generalizing start taken with
  | ind n ih =>
    subst hn
    rcases Nat.lt_or_ge start job.plan.count with hlt | hge
    · have hpos := job.batchFrom_length_pos hlt
      rw [generateFrom_of_lt hlt]
      split
      · simp
      · refine List.forall_mem_cons.mpr ⟨⟨_, rfl⟩, ih _ ?_ _ _ rfl⟩
        rw [stop_batchFrom]
        omega
    · simp [generateFrom_of_le hge]

theorem RowByRow.retries (h : job.RowByRow rows) : ∀ r ∈ rows, r.retries = r.attempt - 1 := by
  induction h with
  | start => simp
  | next _ _ hretries ih =>
    intro r hr
    rcases List.mem_append.mp hr with hr | hr
    · exact ih r hr
    · rw [List.mem_singleton.mp hr]
      exact hretries

/-- The rows of the loop are determined: no two runs of it of the same length differ. -/
theorem RowByRow.unique {more : List SampledRow} (hrows : job.RowByRow rows)
    (hmore : job.RowByRow more) (hlength : rows.length = more.length) : rows = more := by
  induction hrows generalizing more with
  | start => exact (List.eq_nil_of_length_eq_zero hlength.symm).symm
  | @next committed s _ hs hretries ih =>
    cases hmore with
    | start => simp at hlength
    | @next other t hother ht htries =>
      have heq : committed = other := ih hother (by simpa using hlength)
      subst heq
      rw [hs.unique ht (by rw [hretries, htries, hs.attempt_unique ht])]

theorem retries_reportOf (job : TableJob) (rows : List SampledRow) (batches : Nat) :
    (job.reportOf rows batches).retries = total (rows.map SampledRow.retries) := by
  have key : ∀ (sources : List (String × Nat)) (r : TableReport),
      (sources.foldl (fun r s => r.recordUsage s.1 (s.2 * rows.length)) r).retries = r.retries := by
    intro sources
    induction sources with
    | nil => exact fun r => rfl
    | cons s sources ih => exact fun r => ih _
  exact key _ _

/-- What a table hands over are rows of the loop, and all of them unless the table fails. -/
theorem generate_sound (job : TableJob) : ∃ rows, job.RowByRow rows ∧
    recordsOf job.generate.1 = job.recordsFrom 0 rows ∧
    ∀ all report, job.generate.2 = .ok (all, report) → all = rows ∧
      rows.length = job.plan.count ∧ ∃ batches, report = job.reportOf rows batches := by
  obtain ⟨rows, hrows, hrecords, hdone⟩ :=
    generateFrom_sound (.start : job.RowByRow []) (Nat.zero_le _)
  rw [takenBy_nil, List.length_nil] at hrecords hdone
  rw [List.nil_append] at hrows
  unfold generate
  split
  · exact ⟨[], .start, rfl, fun all report h => by cases h⟩
  · simp only
    split
    · next batches e hfrom =>
      rw [hfrom] at hrecords
      exact ⟨rows, hrows, hrecords, fun all report h => by cases h⟩
    · next batches all hfrom =>
      rw [hfrom] at hrecords hdone
      obtain ⟨rfl, hcount⟩ := hdone all rfl
      refine ⟨all, hrows, ?_, fun all' report h => ?_⟩
      · simpa [recordsOf, Event.records] using hrecords
      · cases h
        exact ⟨rfl, by simpa using hcount, _, rfl⟩

theorem generate_events {all : List SampledRow} {report : TableReport}
    (h : job.generate.2 = .ok (all, report)) : ∃ batches : List Event,
      (∀ e ∈ batches, e.IsBatchOf job.plan.name) ∧
      job.generate.1 = .begin job.plan.name job.plan.count :: batches ++
        [.finish job.plan.name] := by
  have hbatches := job.generateFrom_batches 0 (.ofKeys job.plan.keys)
  unfold generate at h ⊢
  split at h
  · cases h
  · simp only at h ⊢
    split at h
    · cases h
    · next batches rows hfrom =>
      rw [hfrom] at hbatches
      exact ⟨batches, hbatches, rfl⟩

theorem finishedOf_generate_of_error {e : GenerationError} (h : job.generate.2 = .error e) :
    finishedOf job.generate.1 = [] := by
  have hbatches := job.generateFrom_batches 0 (.ofKeys job.plan.keys)
  unfold generate at h ⊢
  split
  · rfl
  · simp only
    split
    · next batches e' hfrom =>
      rw [hfrom] at hbatches
      have hnone := finishedOf_batches hbatches
      simpa [finishedOf, Event.finished?] using hnone
    · next batches rows hfrom => simp_all

theorem generate_complete (hrows : job.RowByRow rows) (hcount : rows.length = job.plan.count) :
    ∃ report, job.generate.2 = .ok (rows, report) := by
  have hparent : job.emptyParent? = none := by
    cases rows with
    | nil => simp [emptyParent?, ← hcount]
    | cons r rest =>
      have hall : job.RowByRow ([] ++ r :: rest) := by simpa using hrows
      exact emptyParent?_eq_none_of_rowValues hall.chosen.1.values
  have hall : job.RowByRow ([] ++ rows) := hrows
  have hfrom := generateFrom_complete hall hcount
  rw [takenBy_nil, List.length_nil] at hfrom
  unfold generate
  rw [hparent]
  simp only
  split
  · next batches e herror =>
    rw [herror] at hfrom
    cases hfrom
  · next batches all hall =>
    rw [hall] at hfrom
    cases hfrom
    exact ⟨_, rfl⟩

end Fixtures.Generation.TableJob
