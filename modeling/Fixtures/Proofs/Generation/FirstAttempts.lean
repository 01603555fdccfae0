import Fixtures.Proofs.Generation.Batching

namespace Fixtures.Generation.TableJob

variable {job : TableJob} {committed rows : List SampledRow} {row : Nat} {values : List Value}
    {s : SampledRow}
  {e : GenerationError}

/-- A table without checks in which first attempts at different rows share no key. -/
structure FirstsApart (job : TableJob) : Prop where
  unchecked : job.table.checks = []
  apart : ∀ row later values values', row < later → later < job.plan.count →
    job.rowValues row 1 = .ok values →
    job.rowValues later 1 = .ok values' → ¬ ShareKey job.plan.keys values values'

structure IsFirst (job : TableJob) (row : Nat) (s : SampledRow) : Prop where
  values : job.rowValues row 1 = .ok s.values
  attempt : s.attempt = 1
  retries : s.retries = 0

def AreFirsts (job : TableJob) (rows : List SampledRow) : Prop :=
  ∀ (row : Nat) s, rows[row]? = some s → job.IsFirst row s

theorem AreFirsts.concat (h : job.AreFirsts rows) (hs : job.IsFirst rows.length s) :
    job.AreFirsts (rows ++ [s]) := by
  intro row t ht
  rcases Nat.lt_or_ge row rows.length with hlt | hge
  · rw [List.getElem?_append_left hlt] at ht
    exact h row t ht
  · rw [List.getElem?_append_right hge, List.getElem?_singleton] at ht
    split at ht
    · next hzero =>
      cases ht
      rwa [show row = rows.length by omega]
    · cases ht

theorem FirstsApart.acceptable (h : job.FirstsApart) (hrows : job.AreFirsts committed)
    (hle : committed.length ≤ row) (hlt : row < job.plan.count)
    (hv : job.rowValues row 1 = .ok values) :
    job.Acceptable committed values := by
  refine ⟨by simp [h.unchecked], fun r hr => ?_⟩
  obtain ⟨i, hi, rfl⟩ := List.getElem_of_mem hr
  exact h.apart i row _ _ (by omega) hlt (hrows i _ (List.getElem?_eq_getElem hi)).values hv

theorem FirstsApart.areFirsts (h : job.FirstsApart) (hrows : job.RowByRow rows)
    (hle : rows.length ≤ job.plan.count) : job.AreFirsts rows := by
  induction hrows with
  | start => exact fun row s hs => by simp at hs
  | @next committed s _ hs hretries ih =>
    rw [List.length_append, List.length_singleton] at hle
    have hfirsts := ih (by omega)
    have hattempt : s.attempt = 1 := by
      refine Nat.le_antisymm (Nat.le_of_not_lt fun hlt => ?_) hs.reached
      obtain ⟨values, hv, hrefused⟩ := hs.refused 1 (Nat.le_refl 1) hlt
      exact hrefused (h.acceptable hfirsts (Nat.le_refl _) (by omega) hv)
    refine hfirsts.concat ⟨?_, hattempt, by omega⟩
    rw [← hattempt]
    exact hs.values

theorem FirstsApart.conflict?_eq_none (h : job.FirstsApart) (hrows : job.RowByRow committed)
    (hle : committed.length ≤ row) (hlt : row < job.plan.count)
    (hv : job.rowValues row 1 = .ok values) :
    (job.takenBy committed).conflict? values = none :=
  conflict?_takenBy_eq_none.mpr (h.acceptable (h.areFirsts hrows (by omega)) hle hlt hv).keys

def sampleFirst (job : TableJob) (row : Nat) : Except GenerationError SampledRow :=
  (job.rowValues row 1).map fun values => ⟨values, 1, 0⟩

theorem rowValues_of_sampleFirst (h : job.sampleFirst row = .error e) :
    job.rowValues row 1 = .error e := by
  unfold sampleFirst at h
  cases hv : job.rowValues row 1 with
  | error e' =>
    rw [hv] at h
    cases h
    rfl
  | ok values =>
    rw [hv] at h
    cases h

variable (hattempts : job.options.maxAttemptsRow ≠ 0)
include hattempts

theorem FirstsApart.sampleRow_eq (h : job.FirstsApart) (hrows : job.RowByRow committed)
    (hle : committed.length ≤ row) (hlt : row < job.plan.count) :
    job.sampleRow (job.takenBy committed) row 1 = job.sampleFirst row := by
  obtain ⟨attempts, hsucc⟩ := Nat.exists_eq_succ_of_ne_zero hattempts
  unfold sampleRow sampleFirst
  rw [show job.options.maxAttemptsRow + 1 - 1 = attempts + 1 by omega, search]
  cases hv : job.rowValues row 1 with
  | error e => rfl
  | ok values =>
    have hacceptable := h.acceptable (h.areFirsts hrows (by omega)) hle hlt hv
    simp only [bind, Except.bind, refusal?_eq_none.mpr hacceptable]
    rfl

theorem FirstsApart.rowByRow_concat (h : job.FirstsApart) (hrows : job.RowByRow committed)
    (hlt : committed.length < job.plan.count) (hs : job.sampleFirst committed.length = .ok s) :
    job.RowByRow (committed ++ [s]) ∧
      job.commitRow (job.takenBy committed) committed.length s = .ok (s,
          job.takenBy (committed ++ [s])) := by
  have hsample := (h.sampleRow_eq hattempts hrows (Nat.le_refl _) hlt).trans hs
  obtain ⟨hchosen, hretries⟩ := sampleRow_eq_ok.mp hsample
  refine ⟨hrows.next hchosen hretries, ?_⟩
  have hpending := pending_of_sampleRow hsample []
  rw [List.append_nil] at hpending
  exact (commitRow_eq_ok hpending).mpr ⟨hchosen, hretries, rfl⟩

theorem FirstsApart.error_of_commitRows (h : job.FirstsApart) {count : Nat}
    (hrows : job.RowByRow committed) (hle : committed.length + count ≤ job.plan.count)
    (herror : job.commitRows (job.takenBy committed)
      ((List.range' committed.length count).map fun row => (row, job.sampleFirst row)) = .error e) :
    ∃ row < job.plan.count, job.rowValues row 1 = .error e := by
  induction count generalizing committed with
  | zero => cases herror
  | succ count ih =>
    rw [List.range'_succ, List.map_cons] at herror
    rcases bind_eq_error.mp herror with hsample | ⟨s, hs, herror⟩
    · exact ⟨committed.length, by omega, rowValues_of_sampleFirst hsample⟩
    · obtain ⟨hnext, hcommit⟩ := h.rowByRow_concat hattempts hrows (by omega) hs
      rw [hcommit] at herror
      rcases bind_eq_error.mp herror with hnone | ⟨_, hcommitted, herror⟩
      · cases hnone
      · cases hcommitted
        rcases bind_eq_error.mp herror with hrest | ⟨_, -, hpure⟩
        · have hlength : (committed ++ [s]).length = committed.length + 1 := by simp
          exact ih hnext (by omega) (by rwa [hlength])
        · cases hpure

theorem FirstsApart.error_of_generateBatch (h : job.FirstsApart) {count : Nat}
    (hrows : job.RowByRow committed) (hle : committed.length + count ≤ job.plan.count)
    (herror : job.generateBatch (job.takenBy committed) (List.range' committed.length count) =
      .error e) :
    ∃ row < job.plan.count, job.rowValues row 1 = .error e := by
  have hsamples : ((List.range' committed.length count).map fun row =>
      (row, job.sampleRow (job.takenBy committed) row 1)) =
        (List.range' committed.length count).map fun row => (row, job.sampleFirst row) := by
    refine List.map_congr_left fun row hrow => ?_
    obtain ⟨hge, hlt⟩ := List.mem_range'_1.mp hrow
    rw [h.sampleRow_eq hattempts hrows hge (by omega)]
  unfold generateBatch at herror
  simp only [hsamples] at herror
  split at herror
  · next f hfault =>
    cases herror
    obtain ⟨s, hs, hf⟩ := List.exists_of_findSome?_eq_some hfault
    obtain ⟨row, hrow, rfl⟩ := List.mem_map.mp hs
    obtain ⟨-, hlt⟩ := List.mem_range'_1.mp hrow
    refine ⟨row, by omega, ?_⟩
    cases hsample : job.sampleFirst row with
    | error e' =>
      rw [hsample] at hf
      cases e' <;> cases hf
      exact rowValues_of_sampleFirst hsample
    | ok s =>
      rw [hsample] at hf
      cases hf
  · exact h.error_of_commitRows hattempts hrows hle herror

theorem FirstsApart.error_of_generateFrom (h : job.FirstsApart) (hrows : job.RowByRow committed)
    (herror : (job.generateFrom committed.length (job.takenBy committed)).2 = .error e) :
    ∃ row < job.plan.count, job.rowValues row 1 = .error e := by
  -- A batch is never empty, so fewer rows are left after it.
  induction hn : job.plan.count - committed.length using Nat.strongRecOn generalizing committed with
  | ind n ih =>
    subst hn
    rcases Nat.lt_or_ge committed.length job.plan.count with hlt | hge
    · have hbound := job.batchFrom_length_le committed.length
      rw [generateFrom_of_lt hlt, rows_batchFrom] at herror
      cases hbatch : job.generateBatch (job.takenBy committed)
          (List.range' committed.length (job.batchFrom committed.length).length) with
      | error e' =>
        rw [hbatch] at herror
        cases herror
        exact h.error_of_generateBatch hattempts hrows (by omega) hbatch
      | ok result =>
        obtain ⟨batch, next⟩ := result
        obtain ⟨hall, hlength, rfl⟩ := (generateBatch_eq_ok hrows).mp hbatch
        have hpos := job.batchFrom_length_pos hlt
        have hstop : (job.batchFrom committed.length).stop = (committed ++ batch).length := by
          rw [stop_batchFrom, List.length_append, hlength]
        rw [hbatch] at herror
        simp only [hstop] at herror
        refine ih _ ?_ hall ?_ rfl
        · rw [List.length_append]
          omega
        · cases hrest : (job.generateFrom (committed ++
            batch).length (job.takenBy (committed ++ batch))).2 with
          | error e' =>
            rw [hrest] at herror
            cases herror
            rfl
          | ok more =>
            rw [hrest] at herror
            cases herror
    · rw [generateFrom_of_le hge] at herror
      cases herror

theorem FirstsApart.error_of_generate (h : job.FirstsApart) (herror : job.generate.2 = .error e) :
    (∃ target, job.emptyParent? = some target ∧ e = .emptyReferenceSet job.plan.name target) ∨
      ∃ row < job.plan.count, job.rowValues row 1 = .error e := by
  unfold generate at herror
  split at herror
  · next target hparent =>
    cases herror
    exact .inl ⟨target, hparent, rfl⟩
  · simp only at herror
    split at herror
    · next batches e' hfailed =>
      cases herror
      exact .inr (h.error_of_generateFrom hattempts .start (congrArg Prod.snd hfailed))
    · cases herror

omit hattempts

/-- No attempt at a row is refused for its keys. A table fails only because it has no rows to refer
to or a first attempt has no values, and otherwise its rows are the first attempts. -/
structure NeedsNoRetry (job : TableJob) : Prop where
  fresh : ∀ committed row values, job.RowByRow committed → committed.length ≤ row →
    row < job.plan.count →
    job.rowValues row 1 = .ok values → (job.takenBy committed).conflict? values = none
  failed : job.options.maxAttemptsRow ≠ 0 → ∀ e, job.generate.2 = .error e →
    (∃ target, job.emptyParent? = some target ∧ e = .emptyReferenceSet job.plan.name target) ∨
      ∃ row < job.plan.count, job.rowValues row 1 = .error e
  finished : ∀ rows report, job.generate.2 = .ok (rows, report) →
    report.retries = 0 ∧ rows.length = job.plan.count ∧ job.AreFirsts rows

theorem AreFirsts.total_retries (h : job.AreFirsts rows) :
    total (rows.map SampledRow.retries) = 0 := by
  have hzeros : rows.map SampledRow.retries = List.replicate rows.length 0 := by
    refine List.eq_replicate_iff.mpr ⟨List.length_map _, fun n hn => ?_⟩
    obtain ⟨s, hs, rfl⟩ := List.mem_map.mp hn
    obtain ⟨row, hrow⟩ := List.getElem?_of_mem hs
    exact (h row s hrow).retries
  rw [hzeros]
  exact List.sum_replicate_nat

theorem FirstsApart.needsNoRetry (h : job.FirstsApart) : job.NeedsNoRetry := by
  refine ⟨fun committed row values => h.conflict?_eq_none, fun hattempts e =>
    h.error_of_generate hattempts, fun rows report hgenerate => ?_⟩
  obtain ⟨all, hrows, -, hdone⟩ := job.generate_sound
  obtain ⟨rfl, hcount, batches, rfl⟩ := hdone rows report hgenerate
  have hfirsts := h.areFirsts hrows (Nat.le_of_eq hcount)
  exact ⟨(job.retries_reportOf rows batches).trans hfirsts.total_retries, hcount, hfirsts⟩

end Fixtures.Generation.TableJob
