import Fixtures.Proofs.Domain.Labels
import Fixtures.Proofs.Generation.FailedRuns
import Fixtures.Proofs.Generation.RowErrors
import Fixtures.Proofs.Model.WellFormed

namespace Fixtures

namespace Model

variable {s : Schema} {m : Model} {t : Table}

theorem Table.Matches.exists_field {declared : Fixtures.Table} (h : t.Matches s m declared)
    {f : Field} (hf : f ∈ t.fields) : ∃ g ∈ declared.fields, f.Matches s t g := by
  obtain ⟨i, hi⟩ := List.getElem?_of_mem hf
  have hlength : declared.fields.length = t.fields.length := by
    simpa [Model.Table.fieldNames] using (congrArg List.length h.fieldNames).symm
  obtain ⟨g, hg⟩ := exists_getElem?_of_length hlength hi
  exact ⟨g, List.mem_of_getElem? hg, h.fields i g f hg hi⟩

theorem Table.Matches.isLabelled {declared : Fixtures.Table} (h : t.Matches s m declared)
    {f : Field} (hf : f ∈ t.fields) : f.domain.IsLabelled := by
  obtain ⟨g, -, hg⟩ := h.exists_field hf
  exact Domain.isLabelled_of_build hg.domain

end Model

namespace Generation

variable {s : Schema} {o : Options} {seed : UInt64} {m : Model} {order : List String} {run : Run}
  {t : Model.Table} {plan : TablePlan} {plans : List TablePlan} {e : GenerationError}
  {done : List Finished} {rest : List TablePlan}

/-- Errors of what the directive of a table says: an option that is wrong, or one that is a pattern
which texts cannot be drawn from. -/
inductive OptionFault (o : Options) (m : Model) : GenerationError → Prop
  | parameter {t : Model.Table} {kind : StrategyKind} {options : OptionMap} {subject : String}
      {fault : ParameterError} : t ∈ m.tables → Directs t kind options →
      StrategyConfig.read kind options o = .error fault →
      OptionFault o m (.directive (.parameter subject fault))
  | badPattern {t : Model.Table} {config : StrategyConfig} {field source : String} {maxRepeat : Nat}
      {reason : Regex.SampleError} : t ∈ m.tables → IsConfigOf o t config →
      config.strategy = .pattern (some source) maxRepeat →
      compilePattern source maxRepeat = .error reason →
      OptionFault o m (.directive (.badPattern t.name field source reason))

theorem exists_matches_of_table? (hcompile : s.compile = .ok (m, order)) {name : String}
    (ht : m.table? name = some t) : ∃ declared, t.Matches s m declared :=
  Model.exists_matches_of_ofSchema (ofSchema_and_order_of_compile hcompile).1
  (List.mem_of_find?_eq_some ht)

theorem exists_fieldIndex?_of_isKeyed {declared : Table} (h : t.Matches s m declared)
    {name : String} (hname : IsKeyed t name) : ∃ i, t.fieldIndex? name = some i := by
  rcases hname with ⟨k, hk, hmem⟩ | ⟨k, hk, hmem⟩
  · obtain ⟨f, hf⟩ := (h.foreignKeys k hk).2 name hmem
    exact Model.Table.exists_fieldIndex? hf
  · obtain ⟨f, hf⟩ := h.keys k hk name hmem
    exact Model.Table.exists_fieldIndex? hf

theorem optionFault_of_ofOrder (hcompile : s.compile = .ok (m, order))
    (h : TablePlan.ofOrder o m order = .error e) : OptionFault o m e := by
  obtain ⟨name, hname, ⟨hnone, rfl⟩ | ⟨t, ht, hplan⟩⟩ := exists_name_of_ofOrder h
  · obtain ⟨t, ht⟩ := exists_table?_of_mem_order hcompile hname
    rw [hnone] at ht
    cases ht
  · obtain ⟨declared, hmatches⟩ := exists_matches_of_table? hcompile ht
    have hmem := List.mem_of_find?_eq_some ht
    cases hplan with
    | parameter hdirects hread => exact .parameter hmem hdirects hread
    | badPattern hconfig hstrategy hpattern => exact .badPattern hmem hconfig hstrategy hpattern
    | unknownField hnone hkeyed =>
      obtain ⟨i, hi⟩ := exists_fieldIndex?_of_isKeyed hmatches hkeyed
      rw [hnone] at hi
      cases hi

/-- A plan whose keys and foreign keys have positions of fields, each foreign key one for each field
that it references. -/
structure TablePlan.InBounds (plan : TablePlan) : Prop where
  keys : ∀ k ∈ plan.keys, ∀ i ∈ k.fields, i < plan.fields.length
  foreignKeys : ∀ k ∈ plan.foreignKeys, ∀ i ∈ k.fields, i < plan.fields.length
  lengths : ∀ k ∈ plan.foreignKeys, k.fields.length = k.targetFields.length

theorem lt_length_of_positions {names : List String} {positions : List Nat}
    (h : TablePlan.positions t names = .ok positions) : ∀ i ∈ positions, i < t.fields.length := by
  intro i hi
  obtain ⟨j, hj⟩ := List.getElem?_of_mem hi
  obtain ⟨name, -, hindex⟩ := getElem?_of_positions h hj
  obtain ⟨f, hf, -⟩ := Model.Table.fieldIndex?_eq_some hindex
  exact (List.getElem?_eq_some_iff.mp hf).1

theorem inBounds_of_ofTable {declared : Table} (hmatches : t.Matches s m declared)
    (h : TablePlan.ofTable o t = .ok plan) : plan.InBounds := by
  have hof := isOf_of_ofTable h
  refine ⟨fun k hk => ?_, fun k hk => ?_, fun k hk => ?_⟩
  · obtain ⟨key, -, hkey, -⟩ := exists_key_of_ofTable h hk
    exact hof.length ▸ lt_length_of_positions hkey.fields
  · obtain ⟨key, -, hkey⟩ := hof.exists_foreignKey hk
    exact hof.length ▸ lt_length_of_positions hkey.fields
  · obtain ⟨key, hmem, hkey⟩ := hof.exists_foreignKey hk
    rw [hkey.targetFields, (hmatches.foreignKeys key hmem).1.length]
    exact length_of_mapM hkey.fields

def Resolves (t : Model.Table) (fields : List String) (positions : List Nat) : Prop :=
  fields.map t.fieldIndex? = positions.map some

variable {fields : List String} {positions : List Nat}

theorem Resolves.length (h : Resolves t fields positions) : positions.length = fields.length := by
  simpa using (congrArg List.length h).symm

theorem Resolves.filterMap (h : Resolves t fields positions) :
    fields.filterMap t.fieldIndex? = positions := by
  have hid := congrArg (List.filterMap id) h
  simpa [List.filterMap_map] using hid

theorem exists_resolves (h : ∀ x ∈ fields, ∃ f, t.field? x = some f) :
    ∃ positions, Resolves t fields positions := by
  refine ⟨fields.filterMap t.fieldIndex?, (map_some_filterMap fun x hx => ?_).symm⟩
  obtain ⟨f, hf⟩ := h x hx
  exact Model.Table.exists_fieldIndex? hf

theorem length_project (h : Resolves t fields positions) (values : List Value) :
    (project t fields values).length = fields.length := by
  rw [project, List.length_map, h.filterMap, h.length]

/-- Lists of fields whose keys are kept: a key of the table, or what some foreign key names. -/
theorem of_mem_referenceLists (h : fields ∈ referenceLists t plans) :
    (∃ k ∈ t.keys, k.fields = fields) ∨ ∃ plan ∈ plans, ∃ k ∈ plan.foreignKeys,
      k.targetTable = t.name ∧ k.targetFields = fields := by
  rcases mem_foldl_addFields.mp h with hfirst | ⟨k, hk, rfl⟩
  · obtain ⟨key, hkey, rfl⟩ := Option.map_eq_some_iff.mp (Option.mem_toList.mp hfirst)
    exact .inl ⟨key, List.mem_of_mem_head? hkey, rfl⟩
  · obtain ⟨hmem, htarget⟩ := List.mem_filter.mp hk
    obtain ⟨plan, hplan, hk⟩ := List.mem_flatMap.mp hmem
    exact .inr ⟨plan, hplan, k, hk, by simpa using htarget, rfl⟩

theorem exists_resolves_of_mem_referenceLists (hcompile : s.compile = .ok (m, order))
    (hplans : TablePlan.ofOrder o m order = .ok plans) (ht : t ∈ m.tables)
    (h : fields ∈ referenceLists t plans) : ∃ positions, Resolves t fields positions := by
  have hm := isOf_of_compile hcompile
  refine exists_resolves fun x hx => ?_
  rcases of_mem_referenceLists h with ⟨key, hkey, rfl⟩ | ⟨plan, hplan, k, hk, hname, rfl⟩
  · obtain ⟨declared, hmatches⟩ := exists_matches_of_table? hcompile (hm.table?_of_mem ht)
    exact hmatches.keys key hkey x hx
  · obtain ⟨child, hchild, hof⟩ := exists_table_of_ofOrder hplans hplan
    obtain ⟨key, hkey, hkeyOf⟩ := (isOf_of_ofTable hof).exists_foreignKey hk
    obtain ⟨target, htarget, hrefers⟩ := hm.refers (List.mem_of_find?_eq_some hchild) hkey
    rw [← hkeyOf.targetTable, hname, hm.table?_of_mem ht] at htarget
    cases htarget
    exact hrefers.exists_target (hkeyOf.targetFields ▸ hx)

theorem Underway.exists_set (h : Underway s order run done (plan :: rest)) {k : ForeignKeyPlan}
    (hk : k ∈ plan.foreignKeys) :
    ∃ set, (run.referencesAfter done).set? k.targetTable k.targetFields = some set ∧
      ∀ tuple ∈ set.tuples, tuple.length = k.fields.length := by
  have hmem : plan ∈ run.plans := by simp [h.plans]
  obtain ⟨t, ht, hof⟩ := exists_table_of_ofOrder h.ofOrder hmem
  obtain ⟨declared, hmatches⟩ := exists_matches_of_table? h.compiled ht
  obtain ⟨g, hg, hname, hset⟩ := h.exists_parent_set ht (isOf_of_ofTable hof) hk
  refine ⟨_, hset, fun tuple htuple => ?_⟩
  obtain ⟨positions, hresolves⟩ := exists_resolves_of_mem_referenceLists h.compiled h.ofOrder
    (List.mem_of_find?_eq_some (h.isOf hg).1.table) (mem_referenceLists hmem hk hname.symm)
  obtain ⟨row, -, rfl⟩ := List.mem_map.mp (List.mem_filter.mp htuple).1
  rw [length_project hresolves, (inBounds_of_ofTable hmatches hof).lengths k hk]

theorem attempts_of_checked (h : o.checked = .ok o) :
    o.maxAttemptsValue ≠ 0 ∧ o.maxAttemptsRow ≠ 0 := by
  unfold Options.checked at h
  split at h
  · next hnone =>
    unfold Options.error? at hnone
    grind
  · cases h

/-- An error that says in words what cannot be satisfied, if it is of that kind. -/
def InWords (e : GenerationError) : Prop :=
  ∀ table field text, e = .unsatisfiable table field text → BeginsWithWord text

theorem check_label_beginsWithWord (c : Model.Check) : BeginsWithWord c.label := by
  simp only [Model.Check.label, String.append_assoc]
  exact beginsWithWord_append ⟨_, _, rfl, by decide⟩ _

theorem key_label_beginsWithWord (k : Model.Key) : BeginsWithWord k.label := by
  simp only [Model.Key.label, String.append_assoc]
  split <;> exact beginsWithWord_append ⟨_, _, rfl, by decide⟩ _

variable {job : TableJob}

theorem TableJob.Violation.beginsWithWord {text : String} (h : job.Violation text)
    (hlabelled : ∀ f ∈ job.table.fields, f.domain.IsLabelled)
    (hattempts : job.options.maxAttemptsValue ≠ 0) : BeginsWithWord text := by
  cases h with
  | refused hfield hrefusal => exact (hlabelled _ hfield).beginsWithWord_of_refusal? hrefusal
  | none hzero => exact absurd hzero hattempts

theorem TableJob.ErrorSource.inWords (h : job.ErrorSource e)
    (hlabelled : ∀ f ∈ job.table.fields, f.domain.IsLabelled)
    (hkeys : ∀ k ∈ job.plan.keys, BeginsWithWord k.label)
    (hoptions : job.options.checked = .ok job.options) :
    InWords e := by
  obtain ⟨hvalue, hrow⟩ := attempts_of_checked hoptions
  rintro table field text rfl
  generalize herror : GenerationError.unsatisfiable table field text = e at h
  cases h with
  | values _ hvalues =>
    subst herror
    rcases TableJob.valueError_of_rowValues hvalues with hwanting | ⟨f, hfault, -⟩
    · cases hwanting with
      | violated _ hviolation => exact hviolation.beginsWithWord hlabelled hvalue
    · cases hfault
  | check =>
    cases herror
    exact check_label_beginsWithWord _
  | key hk =>
    cases herror
    exact hkeys _ hk
  | noAttempts hnone => exact absurd hnone hrow

theorem inWords_of_run (h : Generation.run s o seed = .error e) : InWords e := by
  rintro table field text rfl
  generalize herror : GenerationError.unsatisfiable table field text = e at h
  cases runError_of_run h with
  | options | analysis => cases herror
  | directive hcompile hplans =>
    cases optionFault_of_ofOrder hcompile hplans <;> cases herror
  | @table _ run done plan rest t _ hdone ho _ hchecked ht hof hgenerate =>
    obtain ⟨declared, hmatches⟩ := exists_matches_of_table? hdone.compiled ht
    rcases TableJob.errorSource_of_generate hgenerate with ⟨target, -, rfl⟩ | ⟨-, hsource⟩
    · cases herror
    · refine hsource.inWords (fun f hf => hmatches.isLabelled hf)
        (fun k hk => ?_) ?_ _ _ _ herror.symm
      · obtain ⟨key, -, -, hlabel⟩ := exists_key_of_ofTable hof hk
        exact hlabel ▸ key_label_beginsWithWord key
      · subst ho
        exact hchecked

/-- Nothing that is looked up by name in a compiled schema is missing. Tables are planned unless an
option is wrong, with all positions in bounds. All lists of fields whose keys are kept resolve to
positions, and where a foreign key draws from kept keys these have as many values as it has fields.
A row is never given up without an attempt. -/
structure LookupsSucceed (s : Schema) (m : Model) (order : List String) (o : Options) : Prop where
  planErrors : ∀ e, TablePlan.ofOrder o m order = .error e → OptionFault o m e
  plans : ∀ plans, TablePlan.ofOrder o m order = .ok plans → ∀ plan ∈ plans,
    ∃ t, m.table? plan.name = some t ∧ plan.fields.length = t.fields.length ∧ plan.InBounds
  lists : ∀ plans, TablePlan.ofOrder o m order = .ok plans → ∀ t ∈ m.tables,
    ∀ fields ∈ referenceLists t plans, ∃ positions, Resolves t fields positions ∧
      fields.filterMap t.fieldIndex? = positions ∧ positions.length = fields.length
  tuples : ∀ seed run done plan rest, Run.ofModel o m order seed = .ok run → run.TableByTable done →
    run.plans = done.map Finished.plan ++ plan :: rest → ∀ k ∈ plan.foreignKeys,
      ∃ set, (run.referencesAfter done).set? k.targetTable k.targetFields = some set ∧
        ∀ tuple ∈ set.tuples, tuple.length = k.fields.length
  attempts : ∀ seed table (n : Nat),
    Generation.run s o seed ≠ .error (.unsatisfiable table "" (toString n ++ " row attempts"))

theorem lookups_succeed (hcompile : s.compile = .ok (m, order)) (o : Options) :
    LookupsSucceed s m order o := by
  refine ⟨fun e => optionFault_of_ofOrder hcompile, fun plans hplans plan hplan => ?_,
    fun plans hplans t ht fields hfields => ?_,
    fun seed run done plan rest hrun hdone hplans k hk => ?_, fun seed table n hrun => ?_⟩
  · obtain ⟨t, ht, hof⟩ := exists_table_of_ofOrder hplans hplan
    obtain ⟨declared, hmatches⟩ := exists_matches_of_table? hcompile ht
    exact ⟨t, ht, (isOf_of_ofTable hof).length, inBounds_of_ofTable hmatches hof⟩
  · obtain ⟨positions, hresolves⟩ :=
      exists_resolves_of_mem_referenceLists hcompile hplans ht hfields
    exact ⟨positions, hresolves, hresolves.filterMap, hresolves.length⟩
  · obtain ⟨rfl, rfl, -, hstart⟩ := underway_of_ofModel hcompile hrun
    exact Underway.exists_set ⟨hcompile, hdone, hstart.ofOrder, hplans⟩ hk
  · exact not_beginsWithWord_of_number n _ (inWords_of_run hrun _ _ _ rfl)

theorem lookups_succeed_stock : ∃ m order, Model.stockSchema.compile = .ok (m, order) ∧
    LookupsSucceed Model.stockSchema m order {} := by
  have h : Model.stockSchema.compile.toOption.isSome := by
    decide +kernel
  obtain ⟨⟨m, order⟩, hcompile⟩ := Option.isSome_iff_exists.mp h
  have hcompile := toOption_eq_some.mp hcompile
  exact ⟨m, order, hcompile, lookups_succeed hcompile {}⟩

end Generation

end Fixtures
