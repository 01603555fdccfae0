import Fixtures.Proofs.Generation.CompleteRun
import Fixtures.Proofs.Generation.ErrorSources

namespace Fixtures.Generation

variable {s : Schema} {o : Options} {seed : UInt64} {m : Model} {run : Run} {order : List String}
  {done : List Finished} {t : Model.Table} {plan : TablePlan} {rest : List TablePlan}
  {report : Report}
  {e : GenerationError}

theorem Underway.exists_failed (h : Underway s order run done rest)
    (he : (run.generateTables (run.referencesAfter done) report rest).2 = .error e) :
    ∃ more plan tail t, Underway s order run more (plan :: tail) ∧
      run.model.table? plan.name = some t ∧ TablePlan.ofTable run.options t = .ok plan ∧
        (run.job t plan (run.referencesAfter more)).generate.2 = .error e := by
  induction rest generalizing done report with
  | nil => cases he
  | cons plan rest ih =>
    have hmem : plan ∈ run.plans := by simp [h.plans]
    obtain ⟨t, ht, hof⟩ := exists_table_of_ofOrder h.ofOrder hmem
    have htable : TablePlan.tableOf run.model plan.name = .ok t := by
      rw [TablePlan.tableOf, ht]
    rw [Run.generateTables, htable] at he
    simp only at he
    split at he
    · next events e' hfailed =>
      cases he
      exact ⟨done, plan, rest, t, h, ht, hof, congrArg Prod.snd hfailed⟩
    · next events rows tableReport hgenerate =>
      have hnext := (Run.isNext_of_generate htable (congrArg Prod.snd hgenerate)).1
      rw [← Run.referencesAfter_concat run done ⟨t, plan, rows⟩] at he
      exact ih ⟨h.compiled, h.finished.next hnext, h.ofOrder, by simp [h.plans]⟩ he

theorem underway_of_ofModel (hcompile : s.compile = .ok (m, order))
    (hrun : Run.ofModel o m order seed = .ok run) :
    run.model = m ∧ run.options = o ∧ run.seed = seed ∧ Underway s order run [] run.plans := by
  obtain ⟨o', ho, hrest⟩ := bind_eq_ok.mp hrun
  obtain ⟨plans, hplans, hpure⟩ := bind_eq_ok.mp hrest
  obtain rfl := eq_of_checked ho
  cases hpure
  exact ⟨rfl, rfl, rfl, hcompile, .start, hplans, rfl⟩

inductive RunError (s : Schema) (o : Options) (seed : UInt64) : GenerationError → Prop
  | options {e : OptionsError} : o.error? = some e → RunError s o seed (.options e)
  | analysis {found : Diagnostics} : s.compile = .error found → RunError s o seed (.analysis found)
  | directive {m : Model} {order : List String} {e : GenerationError} :
      s.compile = .ok (m, order) → TablePlan.ofOrder o m order = .error e → RunError s o seed e
  | table {order : List String} {run : Run} {done : List Finished} {plan : TablePlan}
      {rest : List TablePlan} {t : Model.Table} {e : GenerationError} :
      Underway s order run done (plan :: rest) → run.options = o → run.seed = seed →
      o.checked = .ok o → run.model.table? plan.name = some t → TablePlan.ofTable o t = .ok plan →
      (run.job t plan (run.referencesAfter done)).generate.2 = .error e → RunError s o seed e

theorem error?_of_checked (h : o.checked = .error e) :
    ∃ e', o.error? = some e' ∧ e = .options e' := by
  unfold Options.checked at h
  split at h
  · cases h
  · next e' he' =>
    cases h
    exact ⟨e', he', rfl⟩

theorem runError_of_run (h : Generation.run s o seed = .error e) : RunError s o seed e := by
  rcases bind_eq_error.mp h with hchecked | ⟨o', ho, hrest⟩
  · obtain ⟨e', he', rfl⟩ := error?_of_checked hchecked
    exact .options he'
  · obtain rfl := eq_of_checked ho
    split at hrest
    · next found hcompile =>
      cases hrest
      exact .analysis hcompile
    · next m order hcompile =>
      split at hrest
      · cases hrest
      · next events e' hgenerate =>
        cases hrest
        cases hrun : Run.ofModel o' m order seed with
        | error e' =>
          rw [generateModel_of_error hrun] at hgenerate
          cases hgenerate
          rcases bind_eq_error.mp hrun with hchecked | ⟨o'', ho', hplans⟩
          · rw [ho] at hchecked
            cases hchecked
          · obtain rfl := eq_of_checked ho'
            rcases bind_eq_error.mp hplans with hplans | ⟨plans, -, hpure⟩
            · exact .directive hcompile hplans
            · cases hpure
        | ok run =>
          rw [generateModel_of_ok hrun] at hgenerate
          obtain ⟨rfl, rfl, rfl, hunderway⟩ := underway_of_ofModel hcompile hrun
          obtain ⟨done, plan, rest, t, hdone, ht, hof, hfailed⟩ :=
            hunderway.exists_failed (congrArg Prod.snd hgenerate)
          exact .table hdone rfl rfl ho ht hof hfailed

end Fixtures.Generation
