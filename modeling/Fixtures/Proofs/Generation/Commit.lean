import Fixtures.Proofs.Generation.RowByRow
import Fixtures.Proofs.Positions

namespace Fixtures.Generation.TableJob

variable {job : TableJob} {committed more rows : List SampledRow} {row : Nat} {s t : SampledRow}
  {next : KeyTracker}

/-- An attempt on its way to be committed: it makes no check false, and all attempts before it are
refused. -/
structure Pending (job : TableJob) (committed : List SampledRow) (row : Nat) (s : SampledRow) :
    Prop where
  positive : 1 ≤ s.attempt
  within : s.attempt ≤ job.options.maxAttemptsRow
  values : job.rowValues row s.attempt = .ok s.values
  checks : ∀ c ∈ job.table.checks, c.expression.holds (job.lookup s.values) ≠ some false
  refused : job.AllRefused committed row 1 s.attempt
  retries : s.retries = s.attempt - 1

theorem pending_of_sampleRow (h : job.sampleRow (job.takenBy committed) row 1 = .ok s)
    (more : List SampledRow) : job.Pending (committed ++ more) row s := by
  obtain ⟨hs, hretries⟩ := sampleRow_eq_ok.mp h
  exact ⟨hs.reached, hs.within, hs.values, hs.acceptable.checks, hs.refused.append more, hretries⟩

theorem Pending.chosen (h : job.Pending committed row s)
    (hkeys : ∀ r ∈ committed, ¬ ShareKey job.plan.keys r.values s.values) :
    job.Chosen committed row 1 s :=
  ⟨h.positive, h.within, h.values, ⟨h.checks, hkeys⟩, h.refused⟩

/-- An attempt that collides is refused, and the next one that is sampled goes on from there. -/
theorem Pending.resample (h : job.Pending committed row s)
    (hr : ¬ job.Acceptable committed s.values)
    (ht : job.sampleRow (job.takenBy committed) row (s.attempt + 1) = .ok t) :
    job.Pending committed row { t with retries := t.retries + (s.retries + 1) } := by
  obtain ⟨hc, hretries⟩ := sampleRow_eq_ok.mp ht
  have hpositive := h.positive
  have hreached := hc.reached
  have hs := h.retries
  refine ⟨by simp only; omega, hc.within, hc.values, hc.acceptable.checks, ?_, by simp only; omega⟩
  intro a ha hlt
  by_cases hle : a < s.attempt + 1
  · exact h.refused.step h.values hr a ha hle
  · exact hc.refused a (by omega) hlt

/-- After a refused attempt the row is the first acceptable one of the attempts that are left. -/
theorem Chosen.later {attempt : Nat} (ht : job.Chosen committed row 1 t)
    (h : job.AllRefused committed row 1 (attempt + 1)) :
    job.Chosen committed row (attempt + 1) t := by
  have hreached : attempt + 1 ≤ t.attempt := by
    apply Nat.le_of_not_lt
    intro hlt
    obtain ⟨values, hv, hr⟩ := h t.attempt ht.reached hlt
    have heq : t.values = values := Except.ok.inj (ht.values.symm.trans hv)
    exact hr (heq ▸ ht.acceptable)
  exact ⟨hreached, ht.within, ht.values, ht.acceptable, fun a ha => ht.refused a (by omega)⟩

theorem commitRow_eq_ok (h : job.Pending committed row s) :
    job.commitRow (job.takenBy committed) row s = .ok (t, next) ↔
      job.Chosen committed row 1 t ∧ t.retries = t.attempt - 1 ∧
        next = job.takenBy (committed ++ [t]) := by
  -- A collision goes on with a later attempt, so fewer of them are left.
  induction hn : job.options.maxAttemptsRow - s.attempt using Nat.strongRecOn generalizing s with
  | ind n ih =>
    subst hn
    rw [commitRow]
    split
    · next after hinsert =>
      obtain ⟨hkeys, rfl⟩ := insert_takenBy_eq_ok.mp hinsert
      have hs := h.chosen hkeys
      constructor
      · intro heq
        cases heq
        exact ⟨hs, h.retries, rfl⟩
      · rintro ⟨ht, hretries, rfl⟩
        have hst : s = t :=
          hs.unique ht (by rw [h.retries, hretries, hs.attempt_unique ht])
        rw [hst]
    · next key hinsert =>
      have hr := not_acceptable_of_insert hinsert
      have hrefused := h.refused.step h.values hr
      split
      · next hlast =>
        simp only [reduceCtorEq, false_iff, not_and]
        intro ht
        have hlater := (ht.later hrefused).reached
        have hwithin := ht.within
        omega
      · next hlast =>
        split
        · next e hagain =>
          simp only [reduceCtorEq, false_iff, not_and]
          intro ht
          -- Sampling fails on no attempt that the loop gets to, and it gets as far as `t`.
          have hlater : job.Chosen (committed ++ []) row (s.attempt + 1) t := by
            simpa using ht.later hrefused
          obtain ⟨u, hu⟩ := hlater.sampleRow_of_append
          rw [hu] at hagain
          cases hagain
        · next again hagain =>
          have hle := le_attempt_of_sampleRow hagain
          exact ih _ (by simp only; omega) (h.resample hr hagain) rfl

/-- Consecutive rows as they are sampled beside the keys of earlier ones. -/
def samples (job : TableJob) (committed : List SampledRow) (start count : Nat) :
    List (Nat × Except GenerationError SampledRow) :=
  (List.range' start count).map fun row => (row, job.sampleRow (job.takenBy committed) row 1)

theorem samples_succ (job : TableJob) (committed : List SampledRow) (start count : Nat) :
    job.samples committed start (count + 1) =
      (start, job.sampleRow (job.takenBy committed) start 1) ::
        job.samples committed (start + 1) count := by
  simp [samples, List.range'_succ]

theorem rowByRow_concat : job.RowByRow (committed ++ [s]) ↔
    job.RowByRow committed ∧ job.Chosen committed committed.length 1 s ∧
      s.retries = s.attempt - 1 := by
  constructor
  · intro h
    generalize heq : committed ++ [s] = all at h
    cases h with
    | start => simp at heq
    | next hrows hs hretries =>
      obtain ⟨rfl, hst⟩ := List.append_inj' heq rfl
      cases hst
      exact ⟨hrows, hs, hretries⟩
  · rintro ⟨hrows, hs, hretries⟩
    exact hrows.next hs hretries

theorem RowByRow.of_append (h : job.RowByRow (committed ++ more)) : job.RowByRow committed :=
  of_append_of_concat (fun _ _ hall => (rowByRow_concat.mp hall).1) h

theorem RowByRow.chosen (h : job.RowByRow (committed ++ s :: more)) :
    job.Chosen committed committed.length 1 s ∧ s.retries = s.attempt - 1 := by
  have hall : job.RowByRow (committed ++ [s] ++ more) := by simpa using h
  exact (rowByRow_concat.mp hall.of_append).2

theorem commitRows_eq_ok {base : List SampledRow} {count : Nat}
    (hrows : job.RowByRow (base ++ committed)) :
    job.commitRows (job.takenBy (base ++ committed))
        (job.samples base (base ++ committed).length count) = .ok (rows, next) ↔
      job.RowByRow (base ++ committed ++ rows) ∧ rows.length = count ∧
        next = job.takenBy (base ++ committed ++ rows) := by
  induction count generalizing committed rows with
  | zero =>
    simp only [samples, List.range'_zero, List.map_nil, commitRows, Except.ok.injEq, Prod.mk.injEq,
      List.length_eq_zero_iff]
    constructor
    · rintro ⟨rfl, rfl⟩
      simpa using hrows
    · rintro ⟨-, rfl, rfl⟩
      simp
  | succ count ih =>
    have hnext : ∀ c : SampledRow,
        job.Chosen (base ++ committed) (base ++ committed).length 1 c → c.retries = c.attempt - 1 →
          job.RowByRow (base ++ (committed ++ [c])) := by
      intro c hchosen hretries
      rw [← List.append_assoc]
      exact hrows.next hchosen hretries
    rw [samples_succ]
    constructor
    · intro h
      simp only [commitRows, bind_eq_ok, Prod.exists] at h
      obtain ⟨s, hs, c, taken, hc, rest, last, hrest, heq⟩ := h
      obtain ⟨rfl, rfl⟩ := Prod.mk.inj (Except.ok.inj heq)
      -- The sample only knows the keys of `base`; what it was refused for is refused beside more
      -- rows.
      obtain ⟨hchosen, hretries, rfl⟩ := (commitRow_eq_ok (pending_of_sampleRow hs committed)).mp hc
      have hrest' : job.commitRows (job.takenBy (base ++ (committed ++ [c])))
          (job.samples base (base ++ (committed ++ [c])).length count) = .ok (rest, last) := by
        simpa [List.append_assoc, Nat.add_assoc] using hrest
      simpa [List.append_assoc] using (ih (hnext c hchosen hretries)).mp hrest'
    · rintro ⟨hall, hlength, rfl⟩
      cases rows with
      | nil => simp at hlength
      | cons c rest =>
        obtain ⟨hchosen, hretries⟩ := hall.chosen
        obtain ⟨s, hs⟩ := hchosen.sampleRow_of_append
        have hc := (commitRow_eq_ok (pending_of_sampleRow hs committed)).mpr ⟨hchosen, hretries,
          rfl⟩
        have hrest : job.RowByRow (base ++ (committed ++ [c]) ++ rest) := by simpa using hall
        have hcommit := (ih (hnext c hchosen hretries)).mpr ⟨hrest, Nat.succ.inj hlength, by simp⟩
        simp only [commitRows, bind_eq_ok, Prod.exists]
        exact ⟨s, hs, c, _, hc, rest, _, by simpa [Nat.add_assoc] using hcommit, rfl⟩

end Fixtures.Generation.TableJob
