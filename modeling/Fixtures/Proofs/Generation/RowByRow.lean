import Fixtures.Generation.Row
import Fixtures.Proofs.Generation.KeyTracker
import Fixtures.Proofs.Outcome

namespace Fixtures.Generation.TableJob

variable {job : TableJob} {committed more rows : List SampledRow} {row first : Nat}
  {values : List Value} {s t : SampledRow}

/-- Values that make no check false and have no key of the committed rows. -/
structure Acceptable (job : TableJob) (committed : List SampledRow) (values : List Value) :
    Prop where
  checks : ∀ c ∈ job.table.checks, c.expression.holds (job.lookup values) ≠ some false
  keys : ∀ r ∈ committed, ¬ ShareKey job.plan.keys r.values values

/-- All attempts at a row from `first` up to another one have values that are not acceptable. -/
def AllRefused (job : TableJob) (committed : List SampledRow) (row first attempt : Nat) : Prop :=
  ∀ a, first ≤ a → a < attempt →
    ∃ values, job.rowValues row a = .ok values ∧ ¬ job.Acceptable committed values

/-- The least attempt at a row, from `first` on, that is acceptable. No attempt before it fails to
have values. -/
structure Chosen (job : TableJob) (committed : List SampledRow) (row first : Nat)
    (s : SampledRow) : Prop where
  reached : first ≤ s.attempt
  within : s.attempt ≤ job.options.maxAttemptsRow
  values : job.rowValues row s.attempt = .ok s.values
  acceptable : job.Acceptable committed s.values
  refused : job.AllRefused committed row first s.attempt

/-- Rows that come one after the other: each is the least attempt that is acceptable beside all rows
before it, and the attempts before that one count as retries. -/
inductive RowByRow (job : TableJob) : List SampledRow → Prop
  | start : RowByRow job []
  | next {committed : List SampledRow} {s : SampledRow} : RowByRow job committed →
      job.Chosen committed committed.length 1 s → s.retries = s.attempt - 1 →
      RowByRow job (committed ++ [s])

def takenBy (job : TableJob) (committed : List SampledRow) : KeyTracker :=
  .ofRows job.plan.keys (committed.map SampledRow.values)

theorem takenBy_nil (job : TableJob) : job.takenBy [] = .ofKeys job.plan.keys := rfl

theorem failedCheck?_eq_none : job.failedCheck? values = none ↔
    ∀ c ∈ job.table.checks, c.expression.holds (job.lookup values) ≠ some false := by
  simp [failedCheck?]

theorem conflict?_takenBy_eq_none : (job.takenBy committed).conflict? values = none ↔
    ∀ r ∈ committed, ¬ ShareKey job.plan.keys r.values values := by
  simp [takenBy, KeyTracker.conflict?_ofRows_eq_none]

theorem refusal?_eq_none :
    job.refusal? (job.takenBy committed) values = none ↔ job.Acceptable committed values := by
  have hacc : job.Acceptable committed values ↔ job.failedCheck? values = none ∧
      (job.takenBy committed).conflict? values = none := by
    rw [failedCheck?_eq_none, conflict?_takenBy_eq_none]
    exact ⟨fun h => ⟨h.checks, h.keys⟩, fun h => ⟨h.1, h.2⟩⟩
  rw [hacc, refusal?]
  cases job.failedCheck? values <;> simp

theorem insert_takenBy_eq_ok {next : KeyTracker} :
    (job.takenBy committed).insert s.values = .ok next ↔
      (∀ r ∈ committed, ¬ ShareKey job.plan.keys r.values s.values) ∧
        next = job.takenBy (committed ++ [s]) := by
  simp [takenBy, KeyTracker.insert_ofRows_eq_ok]

theorem not_acceptable_of_insert {key : KeyPlan}
    (h : (job.takenBy committed).insert s.values = .error key) :
    ¬ job.Acceptable committed s.values := by
  intro hacc
  rw [insert_takenBy_eq_ok.mpr ⟨hacc.keys, rfl⟩] at h
  cases h

theorem Acceptable.of_append (h : job.Acceptable (committed ++ more) values) :
    job.Acceptable committed values :=
  ⟨h.checks, fun r hr => h.keys r (List.mem_append_left _ hr)⟩

theorem AllRefused.append {attempt : Nat} (h : job.AllRefused committed row first attempt)
    (more : List SampledRow) : job.AllRefused (committed ++ more) row first attempt := by
  intro a hfirst ha
  obtain ⟨values, hv, hrefused⟩ := h a hfirst ha
  exact ⟨values, hv, fun hacc => hrefused hacc.of_append⟩

theorem AllRefused.step {attempt : Nat} (h : job.AllRefused committed row first attempt)
    (hv : job.rowValues row attempt = .ok values) (hr : ¬ job.Acceptable committed values) :
    job.AllRefused committed row first (attempt + 1) := by
  intro a hfirst ha
  by_cases heq : a = attempt
  · subst heq
    exact ⟨values, hv, hr⟩
  · exact h a hfirst (by omega)

theorem Chosen.attempt_unique (hs : job.Chosen committed row first s)
    (ht : job.Chosen committed row first t) : s.attempt = t.attempt := by
  have key : ∀ {s t : SampledRow}, job.Chosen committed row first s →
      job.Chosen committed row first t → ¬ s.attempt < t.attempt := by
    intro s t hs ht hlt
    obtain ⟨values, hv, hrefused⟩ := ht.refused s.attempt hs.reached hlt
    have heq : s.values = values := Except.ok.inj (hs.values.symm.trans hv)
    exact hrefused (heq ▸ hs.acceptable)
  have hst := key hs ht
  have hts := key ht hs
  omega

theorem Chosen.unique (hs : job.Chosen committed row first s)
    (ht : job.Chosen committed row first t) (hretries : s.retries = t.retries) : s = t := by
  have hattempt := hs.attempt_unique ht
  have hvalues : s.values = t.values := by
    have hv := hs.values
    rw [hattempt, ht.values] at hv
    exact (Except.ok.inj hv).symm
  cases s
  cases t
  simp_all

theorem search_eq_ok {attempts attempt : Nat} {refused : GenerationError} :
    job.search (job.takenBy committed) row first attempts attempt refused = .ok s ↔
      attempt ≤ s.attempt ∧ s.attempt < attempt + attempts ∧
        job.rowValues row s.attempt = .ok s.values ∧ job.Acceptable committed s.values ∧
        job.AllRefused committed row attempt s.attempt ∧ s.retries = s.attempt - first := by
  induction attempts generalizing attempt refused with
  | zero =>
    simp only [search, reduceCtorEq, Nat.add_zero, false_iff]
    omega
  | succ attempts ih =>
    rw [search, bind_eq_ok]
    constructor
    · rintro ⟨values, hv, hs⟩
      split at hs
      · next hnone =>
        cases hs
        exact ⟨Nat.le_refl _, Nat.lt_add_of_pos_right (Nat.succ_pos _), hv,
          refusal?_eq_none.mp hnone, fun a ha hlt => absurd ha (Nat.not_le.mpr hlt), rfl⟩
      · next refused' hsome =>
        obtain ⟨hle, hlt, hrest, hacc, hall, hretries⟩ := ih.mp hs
        refine ⟨by omega, by omega, hrest, hacc, ?_, hretries⟩
        intro a ha hlt
        by_cases heq : a = attempt
        · subst heq
          refine ⟨values, hv, fun h => ?_⟩
          simp [refusal?_eq_none.mpr h] at hsome
        · exact hall a (by omega) hlt
    · rintro ⟨hle, hlt, hv, hacc, hall, hretries⟩
      by_cases heq : s.attempt = attempt
      · rw [heq] at hv hretries
        refine ⟨s.values, hv, ?_⟩
        rw [refusal?_eq_none.mpr hacc]
        cases s
        simp_all [pure, Except.pure]
      · obtain ⟨values, hv', hrefused⟩ := hall attempt (Nat.le_refl _) (by omega)
        refine ⟨values, hv', ?_⟩
        split
        · next hnone => exact absurd (refusal?_eq_none.mp hnone) hrefused
        · exact ih.mpr ⟨by omega, by omega, hv, hacc, fun a ha => hall a (by omega), hretries⟩

theorem sampleRow_eq_ok : job.sampleRow (job.takenBy committed) row first = .ok s ↔
    job.Chosen committed row first s ∧ s.retries = s.attempt - first := by
  rw [sampleRow, search_eq_ok]
  constructor
  · rintro ⟨hle, hlt, hv, hacc, hall, hretries⟩
    exact ⟨⟨hle, by omega, hv, hacc, hall⟩, hretries⟩
  · rintro ⟨h, hretries⟩
    have hwithin := h.within
    have hreached := h.reached
    exact ⟨hreached, by omega, h.values, h.acceptable, h.refused, hretries⟩

/-- Fewer rows refuse fewer attempts, so some attempt is acceptable beside them no later. -/
theorem Chosen.sampleRow_of_append (h : job.Chosen (committed ++ more) row first s) :
    ∃ t, job.sampleRow (job.takenBy committed) row first = .ok t := by
  have key : ∀ attempts attempt refused, attempt ≤ s.attempt → s.attempt < attempt + attempts →
      first ≤ attempt →
      ∃ t, job.search (job.takenBy committed) row first attempts attempt refused = .ok t := by
    intro attempts
    induction attempts with
    | zero => intro attempt refused hle hlt; omega
    | succ attempts ih =>
      intro attempt refused hle hlt hfirst
      have hvalues : ∃ values, job.rowValues row attempt = .ok values ∧
          (attempt = s.attempt → job.Acceptable committed values) := by
        by_cases heq : attempt = s.attempt
        · exact ⟨s.values, heq ▸ h.values, fun _ => h.acceptable.of_append⟩
        · obtain ⟨values, hv, _⟩ := h.refused attempt hfirst (by omega)
          exact ⟨values, hv, fun he => absurd he heq⟩
      obtain ⟨values, hv, hacc⟩ := hvalues
      cases hr : job.refusal? (job.takenBy committed) values with
      | none => exact ⟨_, by rw [search, hv]; simp only [bind, Except.bind, hr]; rfl⟩
      | some refused' =>
        have hne : attempt ≠ s.attempt := by
          intro heq
          simp [refusal?_eq_none.mpr (hacc heq)] at hr
        obtain ⟨t, ht⟩ := ih (attempt + 1) refused' (by omega) (by omega) (by omega)
        exact ⟨t, by rw [search, hv]; simp only [bind, Except.bind, hr]; exact ht⟩
  have hwithin := h.within
  have hreached := h.reached
  exact key _ first _ hreached (by omega) (Nat.le_refl _)

end Fixtures.Generation.TableJob
