import Fixtures.Proofs.Generation.Batching

namespace Fixtures.Generation

/-- Records of a table, numbered from a row on across their batches. -/
structure Consecutive (table : String) (start : Nat) (batches : List (List Record)) : Prop where
  tables : ∀ r ∈ batches.flatten, r.table = table
  positions : batches.flatten.map Record.position = List.range' start batches.flatten.length

/-- The rows of a table from one on up to the last, in batches of `size` rows. Only the last batch
may be shorter, and none is empty. -/
structure Completes (table : String) (size count start : Nat) (batches : List (List Record)) :
    Prop where
  consecutive : Consecutive table start batches
  length : batches.flatten.length = count - start
  bounds : ∀ b ∈ batches, 0 < b.length ∧ b.length ≤ size
  full : ∀ b ∈ batches.dropLast, b.length = size

/-- Some rows of a table from one on, in batches of `size` rows. The last row is not among them. -/
structure BreaksOff (table : String) (size count start : Nat) (batches : List (List Record)) :
    Prop where
  consecutive : Consecutive table start batches
  short : start + batches.flatten.length < count
  full : ∀ b ∈ batches, b.length = size

variable {table : String} {size count start : Nat} {records : List Record}
  {batches : List (List Record)}

theorem consecutive_nil (table : String) (start : Nat) : Consecutive table start [] :=
  ⟨by simp, rfl⟩

theorem Consecutive.cons (h : Consecutive table (start + records.length) batches)
    (htables : ∀ r ∈ records, r.table = table)
    (hpositions : records.map Record.position = List.range' start records.length) :
    Consecutive table start (records :: batches) := by
  constructor
  · intro r hr
    rw [List.flatten_cons, List.mem_append] at hr
    exact hr.elim (htables r) (h.tables r)
  · rw [List.flatten_cons, List.map_append, hpositions, h.positions, List.length_append,
      List.range'_append_1]

theorem Completes.cons (h : Completes table size count (start + records.length) batches)
    (hconsecutive : Consecutive table start (records :: batches))
    (hlength : records.length = min size (count - start)) (hpos : 0 < records.length) :
    Completes table size count start (records :: batches) := by
  have hrest := h.length
  refine ⟨hconsecutive, ?_, List.forall_mem_cons.mpr ⟨⟨hpos, by omega⟩, h.bounds⟩, ?_⟩
  · rw [List.flatten_cons, List.length_append, hrest]
    omega
  · cases batches with
    | nil => simp
    | cons next batches =>
      have hnext := (h.bounds next List.mem_cons_self).1
      rw [List.flatten_cons, List.length_append] at hrest
      rw [List.dropLast_cons_cons]
      exact List.forall_mem_cons.mpr ⟨by omega, h.full⟩

theorem BreaksOff.cons (h : BreaksOff table size count (start + records.length) batches)
    (hconsecutive : Consecutive table start (records :: batches))
    (hlength : records.length = min size (count - start)) :
    BreaksOff table size count start (records :: batches) := by
  have hshort := h.short
  refine ⟨hconsecutive, ?_, List.forall_mem_cons.mpr ⟨by omega, h.full⟩⟩
  rw [List.flatten_cons, List.length_append]
  omega

namespace TableJob

variable {job : TableJob} {taken next : KeyTracker} {rows : List SampledRow}

theorem length_of_commitRows {sampled : List (Nat × Except GenerationError SampledRow)}
    (h : job.commitRows taken sampled = .ok (rows, next)) : rows.length = sampled.length := by
  induction sampled generalizing taken rows with
  | nil =>
    cases h
    rfl
  | cons s sampled ih =>
    simp only [commitRows, bind_eq_ok, Prod.exists] at h
    obtain ⟨_, -, _, _, -, more, _, hmore, heq⟩ := h
    cases heq
    rw [List.length_cons, List.length_cons, ih hmore]

theorem length_of_generateBatch {numbers : List Nat}
    (h : job.generateBatch taken numbers = .ok (rows, next)) : rows.length = numbers.length := by
  unfold generateBatch at h
  simp only at h
  split at h
  · cases h
  · simpa using length_of_commitRows h

theorem batchFrom_length (job : TableJob) (start : Nat) :
    (job.batchFrom start).length = min job.batchSize (job.plan.count - start) := by
  have hpos : 1 ≤ job.batchSize := Nat.le_max_left ..
  simp only [batchFrom, Batch.spanFrom, Nat.max_eq_left hpos]

theorem length_recordsFrom (job : TableJob) (start : Nat) (rows : List SampledRow) :
    (job.recordsFrom start rows).length = rows.length := by
  simp [recordsFrom]

theorem table_of_mem_recordsFrom {r : Record} (h : r ∈ job.recordsFrom start rows) :
    r.table = job.plan.name := by
  obtain ⟨i, hi, rfl⟩ := List.mem_mapIdx.mp h
  rfl

theorem positions_recordsFrom (job : TableJob) (start : Nat) (rows : List SampledRow) :
    (job.recordsFrom start rows).map Record.position =
      List.range' start (job.recordsFrom start rows).length := by
  rw [length_recordsFrom]
  refine List.ext_getElem (by simp [recordsFrom]) fun i hi hi' => ?_
  simp [recordsFrom]

theorem length_recordsFrom_of_generateBatch
    (h : job.generateBatch taken (job.batchFrom start).rows = .ok (rows, next)) :
    (job.recordsFrom start rows).length = (job.batchFrom start).length := by
  rw [length_recordsFrom, length_of_generateBatch h, rows_batchFrom, List.length_range']

inductive Cut (job : TableJob) (start : Nat) : Emitted (List SampledRow) → Prop
  | complete {batches : List (List Record)} {rows : List SampledRow} :
      Completes job.plan.name job.batchSize job.plan.count start batches →
      Cut job start (batches.map (.batch job.plan.name), .ok rows)
  | broken {batches : List (List Record)} {e : GenerationError} :
      BreaksOff job.plan.name job.batchSize job.plan.count start batches →
      Cut job start (batches.map (.batch job.plan.name), .error e)

theorem Cut.cons {result : Emitted (List SampledRow)}
    (h : job.Cut (start + records.length) result) (htables : ∀ r ∈ records, r.table = job.plan.name)
    (hpositions : records.map Record.position = List.range' start records.length)
    (hlength : records.length = min job.batchSize (job.plan.count - start))
    (hpos : 0 < records.length) (rows : List SampledRow) :
    job.Cut start (.batch job.plan.name records :: result.1, result.2.map (rows ++ ·)) := by
  cases h with
  | complete h =>
    exact .complete (h.cons (h.consecutive.cons htables hpositions) hlength hpos)
  | broken h => exact .broken (h.cons (h.consecutive.cons htables hpositions) hlength)

theorem cut_generateFrom (job : TableJob) (start : Nat) (taken : KeyTracker) :
    job.Cut start (job.generateFrom start taken) := by
  -- Every batch has a row, so fewer rows are left after it.
  induction hn : job.plan.count - start using Nat.strongRecOn generalizing start taken with
  | ind n ih =>
    subst hn
    rcases Nat.lt_or_ge start job.plan.count with hlt | hge
    · rw [generateFrom_of_lt hlt]
      have hpos := job.batchFrom_length_pos hlt
      cases hbatch : job.generateBatch taken (job.batchFrom start).rows with
      | error e =>
        have hbroken : BreaksOff job.plan.name job.batchSize job.plan.count start [] :=
          ⟨consecutive_nil _ _, by simpa using hlt, by simp⟩
        exact .broken hbroken
      | ok result =>
        obtain ⟨rows, next⟩ := result
        have hlength := length_recordsFrom_of_generateBatch hbatch
        have hstop : (job.batchFrom start).stop = start + (job.recordsFrom start rows).length := by
          rw [stop_batchFrom, hlength]
        simp only [hstop]
        refine Cut.cons (ih _ (by omega) _ _ rfl) (fun r => table_of_mem_recordsFrom)
          (job.positions_recordsFrom start rows) (hlength.trans (job.batchFrom_length start))
          (hlength ▸ hpos) rows
    · rw [generateFrom_of_le hge]
      have hcomplete : Completes job.plan.name job.batchSize job.plan.count start [] :=
        ⟨consecutive_nil _ _, by simp; omega, by simp, by simp⟩
      exact .complete hcomplete

end TableJob

end Fixtures.Generation
