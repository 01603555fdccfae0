import Fixtures.Generation.Run
import Fixtures.Proofs.Outcome

namespace Fixtures.Generation

namespace KeyTracker

variable {taken next : KeyTracker} {k : KeyPlan} {values : List Value}

def keys (t : KeyTracker) : List KeyPlan :=
  t.columns.map KeyColumn.plan

theorem keys_ofKeys (keys : List KeyPlan) : (ofKeys keys).keys = keys := by
  simp [KeyTracker.keys, ofKeys, Function.comp_def]

theorem mem_keys_of_conflict? (h : taken.conflict? values = some k) : k ∈ taken.keys := by
  obtain ⟨c, hc, rfl⟩ := Option.map_eq_some_iff.mp h
  exact List.mem_map_of_mem (List.mem_of_find?_eq_some hc)

theorem mem_keys_of_insert (h : taken.insert values = .error k) : k ∈ taken.keys := by
  unfold insert at h
  split at h
  · next key hkey =>
    cases h
    exact mem_keys_of_conflict? hkey
  · cases h

theorem keys_of_insert (h : taken.insert values = .ok next) : next.keys = taken.keys := by
  unfold insert at h
  split at h
  · cases h
  · cases h
    simp [KeyTracker.keys, KeyColumn.add, Function.comp_def]

end KeyTracker

namespace TableJob

variable {job : TableJob} {taken next : KeyTracker} {row first : Nat} {e : GenerationError}

/-- Where an error comes from that ends the rows of a table. -/
inductive ErrorSource (job : TableJob) : GenerationError → Prop
  | values {row attempt : Nat} {e : GenerationError} : row < job.plan.count →
      job.rowValues row attempt = .error e → ErrorSource job e
  | check {c : Model.Check} : c ∈ job.table.checks → ErrorSource job (job.checkError c)
  | key {k : KeyPlan} : k ∈ job.plan.keys → ErrorSource job (job.keyError k)
  | noAttempts : job.options.maxAttemptsRow = 0 → ErrorSource job job.noAttempts

theorem errorSource_of_refusal? {values : List Value} (htaken : taken.keys = job.plan.keys)
    (h : job.refusal? taken values = some e) : job.ErrorSource e := by
  unfold refusal? at h
  split at h
  · next c hc =>
    cases h
    exact .check (List.mem_of_find?_eq_some hc)
  · obtain ⟨k, hk, rfl⟩ := Option.map_eq_some_iff.mp h
    exact .key (htaken ▸ KeyTracker.mem_keys_of_conflict? hk)

theorem errorSource_of_search (htaken : taken.keys = job.plan.keys) (hrow : row < job.plan.count)
    {attempts attempt : Nat} {refused : GenerationError}
    (hrefused : attempts = 0 → job.ErrorSource refused)
    (h : job.search taken row first attempts attempt refused = .error e) : job.ErrorSource e := by
  induction attempts generalizing attempt refused with
  | zero =>
    cases h
    exact hrefused rfl
  | succ attempts ih =>
    rcases bind_eq_error.mp h with hvalues | ⟨values, -, hrest⟩
    · exact .values hrow hvalues
    · split at hrest
      · cases hrest
      · next again => exact ih (fun _ => errorSource_of_refusal? htaken again) hrest

theorem errorSource_of_sampleRow (htaken : taken.keys = job.plan.keys) (hrow : row < job.plan.count)
    (hfirst : job.options.maxAttemptsRow < first → job.options.maxAttemptsRow = 0)
    (h : job.sampleRow taken row first = .error e) : job.ErrorSource e :=
  errorSource_of_search htaken hrow (fun hnone => .noAttempts (hfirst (by omega))) h

theorem errorSource_of_commitRow (htaken : taken.keys = job.plan.keys) (hrow : row < job.plan.count)
    {sampled : SampledRow} (h : job.commitRow taken row sampled = .error e) :
    job.ErrorSource e := by
  fun_induction job.commitRow taken row sampled with
  | case1 => cases h
  | case2 _ _ hinsert =>
    cases h
    exact .key (htaken ▸ KeyTracker.mem_keys_of_insert hinsert)
  | case3 _ _ _ hnext _ again =>
    cases h
    exact errorSource_of_sampleRow htaken hrow (by omega) again
  | case4 _ _ _ _ _ _ ih => exact ih h

theorem keys_of_commitRow {sampled : SampledRow} {committed : SampledRow × KeyTracker}
    (h : job.commitRow taken row sampled = .ok committed) : committed.2.keys = taken.keys := by
  fun_induction job.commitRow taken row sampled with
  | case1 _ _ hinsert =>
    cases h
    exact KeyTracker.keys_of_insert hinsert
  | case2 => cases h
  | case3 => cases h
  | case4 _ _ _ _ _ _ ih => exact ih h

theorem errorSource_of_commitRows {sampled : List (Nat × Except GenerationError SampledRow)}
    (htaken : taken.keys = job.plan.keys) (hrows : ∀ s ∈ sampled, s.1 < job.plan.count)
    (hsampled : ∀ s ∈ sampled, ∀ e, s.2 = .error e → job.ErrorSource e)
    (h : job.commitRows taken sampled = .error e) : job.ErrorSource e := by
  induction sampled generalizing taken with
  | nil => cases h
  | cons s sampled ih =>
    obtain ⟨hs, hsampled⟩ := List.forall_mem_cons.mp hsampled
    obtain ⟨hrow, hrows⟩ := List.forall_mem_cons.mp hrows
    rcases bind_eq_error.mp h with hfailed | ⟨r, -, hcommit⟩
    · exact hs e hfailed
    · rcases bind_eq_error.mp hcommit with hfailed | ⟨committed, hcommitted, hrest⟩
      · exact errorSource_of_commitRow htaken hrow hfailed
      · rcases bind_eq_error.mp hrest with hfailed | ⟨more, -, hpure⟩
        · exact ih ((keys_of_commitRow hcommitted).trans htaken) hrows hsampled hfailed
        · cases hpure

theorem keys_of_commitRows {sampled : List (Nat × Except GenerationError SampledRow)}
    {committed : List SampledRow × KeyTracker} (h : job.commitRows taken sampled = .ok committed) :
    committed.2.keys = taken.keys := by
  induction sampled generalizing taken committed with
  | nil =>
    cases h
    rfl
  | cons s sampled ih =>
    obtain ⟨r, -, hcommit⟩ := bind_eq_ok.mp h
    obtain ⟨one, hone, hrest⟩ := bind_eq_ok.mp hcommit
    obtain ⟨more, hmore, hpure⟩ := bind_eq_ok.mp hrest
    cases hpure
    exact (ih hmore).trans (keys_of_commitRow hone)

theorem errorSource_of_generateBatch {rows : List Nat} (htaken : taken.keys = job.plan.keys)
    (hrows : ∀ row ∈ rows, row < job.plan.count) (h : job.generateBatch taken rows = .error e) :
    job.ErrorSource e := by
  have hsampled : ∀ row ∈ rows, ∀ e, job.sampleRow taken row 1 = .error e → job.ErrorSource e :=
    fun row hrow e he => errorSource_of_sampleRow htaken (hrows row hrow) (by omega) he
  unfold generateBatch at h
  simp only at h
  split at h
  · next f hfault =>
    cases h
    obtain ⟨s, hs, hf⟩ := List.exists_of_findSome?_eq_some hfault
    obtain ⟨row, hrow, rfl⟩ := List.mem_map.mp hs
    unfold faultOf? at hf
    split at hf
    · next e he =>
      cases e <;> cases hf
      exact hsampled row hrow _ he
    · cases hf
  · refine errorSource_of_commitRows htaken (fun s hs => ?_) (fun s hs => ?_) h
    · obtain ⟨row, hrow, rfl⟩ := List.mem_map.mp hs
      exact hrows row hrow
    · obtain ⟨row, hrow, rfl⟩ := List.mem_map.mp hs
      exact hsampled row hrow

theorem keys_of_generateBatch {rows : List Nat} {committed : List SampledRow × KeyTracker}
    (h : job.generateBatch taken rows = .ok committed) : committed.2.keys = taken.keys := by
  unfold generateBatch at h
  simp only at h
  split at h
  · cases h
  · exact keys_of_commitRows h

theorem lt_count_of_mem_batchFrom {start : Nat} (h : row ∈ (job.batchFrom start).rows) :
    row < job.plan.count := by
  simp only [batchFrom, Batch.spanFrom, Batch.Span.rows, List.mem_range'_1] at h
  omega

theorem errorSource_of_generateFrom {start : Nat} (htaken : taken.keys = job.plan.keys)
    (h : (job.generateFrom start taken).2 = .error e) : job.ErrorSource e := by
  fun_induction job.generateFrom start taken with
  | case1 start taken hlt span e' hbatch =>
    cases h
    exact errorSource_of_generateBatch htaken (fun _ => lt_count_of_mem_batchFrom) hbatch
  | case2 start taken hlt span rows next hbatch rest ih =>
    refine ih ((keys_of_generateBatch hbatch).trans htaken) ?_
    cases hrest : rest.2 with
    | error e' =>
      rw [hrest] at h
      cases h
      rfl
    | ok rows' =>
      rw [hrest] at h
      cases h
  | case3 => cases h

/-- A table fails at once if it has no rows to reference, or else in one of its rows. -/
theorem errorSource_of_generate (h : job.generate.2 = .error e) :
    (∃ target, job.emptyParent? = some target ∧ e = .emptyReferenceSet job.plan.name target) ∨
      job.emptyParent? = none ∧ job.ErrorSource e := by
  unfold generate at h
  split at h
  · next target hparent =>
    cases h
    exact .inl ⟨target, hparent, rfl⟩
  · next hparent =>
    simp only at h
    split at h
    · next batches e' hfailed =>
      cases h
      exact .inr ⟨hparent, errorSource_of_generateFrom (KeyTracker.keys_ofKeys _)
        (congrArg Prod.snd hfailed)⟩
    · cases h

end TableJob

end Fixtures.Generation
