import Fixtures.Proofs.Generation.Conformity
import Fixtures.Proofs.Generation.FailedRuns
import Fixtures.Proofs.Generation.RowErrors
import Fixtures.Proofs.Model.Keys

namespace Fixtures.Generation

variable {s : Schema} {o : Options} {seed : UInt64} {m : Model} {run : Run} {f : Finished}
  {order fields : List String} {done : List Finished} {t : Model.Table} {plan : TablePlan}
  {rest : List TablePlan} {references : References} {report : Report} {e : GenerationError}

theorem ne_null_of_mem_project {values : List Value} {v : Value} (hrecord : ∀ (i : Nat) g w,
      t.fields[i]? = some g → values[i]? = some w → (w = .null ∧ t.MayBeNull g) ∨ g.Fits w)
    (hlength : values.length = t.fields.length)
    (hkeys : ∀ y ∈ fields, ∃ key ∈ t.keys, y ∈ key.fields) (hv : v ∈ project t fields values) :
    v ≠ .null := by
  obtain ⟨i, hi, rfl⟩ := List.mem_map.mp hv
  obtain ⟨y, hy, hindex⟩ := List.mem_filterMap.mp hi
  obtain ⟨g, hg, rfl, -⟩ := Model.Table.fieldIndex?_eq_some hindex
  obtain ⟨w, hw⟩ := exists_getElem?_of_length hlength hg
  rw [List.getD_eq_getElem?_getD, hw, Option.getD_some]
  rcases hrecord i g w hg hw with ⟨-, hmay⟩ | hfits
  · obtain ⟨key, hkey, hmem⟩ := hkeys g.name hy
    exact absurd hmem (hmay.keys key hkey)
  · exact hfits.hasType.ne_null

/-- A field of a key is null in no row, so a row is kept for fields that are all in keys. -/
theorem length_keptSet (hrecords : ∀ r ∈ f.records, f.table.Conforms r)
    (hkeys : ∀ y ∈ fields, ∃ key ∈ f.table.keys, y ∈ key.fields) :
    (keptSet f.table fields f.rows).tuples.length = f.rows.length := by
  have hall : ∀ tuple ∈ f.rows.map fun row => project f.table fields row.values,
      !tuple.any Value.isNull := by
    intro tuple htuple
    obtain ⟨row, hrow, rfl⟩ := List.mem_map.mp htuple
    obtain ⟨r, hr, hvalues, -⟩ := Finished.exists_record hrow
    have hconforms := hrecords r hr
    rw [Bool.not_eq_true', List.any_eq_false]
    intro v hv hnull
    refine ne_null_of_mem_project (hvalues ▸ hconforms.values)
      (hvalues ▸ hconforms.length) hkeys hv ?_
    cases v <;> simp_all [Value.isNull]
  unfold keptSet
  rw [List.filter_eq_self.mpr hall]
  exact List.length_map ..

namespace Underway

theorem conforms (h : Underway s order run done rest) :
    ∀ f ∈ done, ∀ r ∈ f.records, f.table.Conforms r := by
  refine forall_mem_of_before fun before f after heq hbefore => ?_
  have hparents : ∀ g ∈ before, g.IsOf run.model ∧ ∀ d ∈ g.records, g.table.Conforms d :=
    fun g hg => ⟨(h.isOf (by simp [heq, hg])).1, hbefore g hg⟩
  exact conforms_of_isNext h.model hparents (h.isOf (by simp [heq])).1 (heq ▸ h.finished).isNext

theorem exists_parent_count (h : Underway s order run done (plan :: rest))
    (ht : run.model.table? plan.name = some t) (hplan : plan.IsOf t) {k : ForeignKeyPlan}
    (hk : k ∈ plan.foreignKeys) : ∃ target, run.model.table? k.targetTable = some target ∧
      (run.referencesAfter done).keyCount k.targetTable k.targetFields =
        rowsOf run.options target := by
  obtain ⟨g, hg, hname, hset⟩ := h.exists_parent_set ht hplan hk
  obtain ⟨hof, hofTable⟩ := h.isOf hg
  obtain ⟨key, hkey, hkeyOf⟩ := hplan.exists_foreignKey hk
  have htarget : run.model.table? k.targetTable = some g.table := hname ▸ hof.table?_name
  have hkeys : ∀ y ∈ k.targetFields, ∃ key ∈ g.table.keys, y ∈ key.fields := by
    intro y hy
    rw [hkeyOf.targetFields] at hy
    rw [hkeyOf.targetTable] at htarget
    exact h.model.exists_key_of_target (List.mem_of_find?_eq_some ht) hkey htarget hy
  obtain ⟨before, after, rfl⟩ := List.append_of_mem hg
  refine ⟨g.table, htarget, ?_⟩
  rw [References.keyCount, hset]
  simp only
  rw [length_keptSet (h.conforms g hg) hkeys, h.finished.isNext.count, count_of_ofTable hofTable]

theorem keepsSets (h : Underway s order run done (plan :: rest))
    (ht : run.model.table? plan.name = some t) (hplan : plan.IsOf t) :
    (run.job t plan (run.referencesAfter done)).KeepsSets := by
  intro k hk
  obtain ⟨g, -, -, hset⟩ := h.exists_parent_set ht hplan hk
  exact ⟨_, hset⟩

end Underway

/-- A run fails for want of a key to draw only in a table that asks for rows and references a table
of no rows. Where there are such tables no run succeeds. A table of no rows is done whatever keys
are kept. -/
structure FailsForParents (s : Schema) (m : Model) (o : Options) (seed : UInt64) : Prop where
  failed : ∀ name parent, Generation.run s o seed = .error (.emptyReferenceSet name parent) →
    ∃ t target, m.table? name = some t ∧ m.table? parent = some target ∧
      (∃ k ∈ t.foreignKeys, k.targetTable = parent) ∧ 0 < rowsOf o t ∧ rowsOf o target = 0
  starved : ∀ t ∈ m.tables, ∀ k ∈ t.foreignKeys, ∀ target, m.table? k.targetTable = some target →
    0 < rowsOf o t → rowsOf o target = 0 → ∀ out, Generation.run s o seed ≠ .ok out
  rowless : ∀ t plan, TablePlan.ofTable o t = .ok plan → rowsOf o t = 0 → ∀ references seed,
    ∃ report, (TableJob.mk t plan references o seed).generate.2 = .ok ([], report)

theorem exists_starved_of_run {name parent : String} (hcompile : s.compile = .ok (m, order))
    (h : Generation.run s o seed = .error (.emptyReferenceSet name parent)) :
    ∃ t target, m.table? name = some t ∧ m.table? parent = some target ∧
      (∃ k ∈ t.foreignKeys, k.targetTable = parent) ∧ 0 < rowsOf o t ∧ rowsOf o target = 0 := by
  generalize herror : GenerationError.emptyReferenceSet name parent = e at h
  cases runError_of_run h with
  | options | analysis => cases herror
  | directive _ hplans =>
    obtain ⟨d, rfl⟩ := exists_directive_of_ofOrder hplans
    cases herror
  | @table _ run done plan rest t _ hdone ho _ _ ht hof hgenerate =>
    subst herror
    subst ho
    have hmodel := hdone.compiled
    rw [hcompile] at hmodel
    cases hmodel
    have hplan := isOf_of_ofTable hof
    obtain ⟨rfl, hempty⟩ := TableJob.emptyParent?_of_generate (hdone.keepsSets ht hplan) hgenerate
    obtain ⟨hcount, k, hk, rfl, hzero⟩ := TableJob.emptyParent?_eq_some hempty
    obtain ⟨target, htarget, hrows⟩ := hdone.exists_parent_count ht hplan hk
    obtain ⟨key, hkey, hkeyOf⟩ := hplan.exists_foreignKey hk
    refine ⟨t, target, ht, htarget, ⟨key, hkey, hkeyOf.targetTable.symm⟩, ?_,
      hrows.symm.trans hzero⟩
    rw [← count_of_ofTable hof]
    exact Nat.pos_of_ne_zero hcount

theorem not_run_of_starved {k : ForeignKey} {target : Model.Table} {out : Output}
    (hcompile : s.compile = .ok (m, order)) (ht : t ∈ m.tables) (hk : k ∈ t.foreignKeys)
    (htarget : m.table? k.targetTable = some target) (hrows : 0 < rowsOf o t)
    (hnone : rowsOf o target = 0) : Generation.run s o seed ≠ .ok out := by
  intro hrun
  obtain ⟨run, done, hcomplete, hplanned⟩ := exists_planned hrun
  have hmodel := hcomplete.compiled
  rw [hcompile] at hmodel
  cases hmodel
  obtain ⟨f, hf, rfl⟩ := hcomplete.exists_finished_of_table hplanned ht
  have hof := hcomplete.planned f hf
  have hofTable := hcomplete.ofTable hplanned hf
  obtain ⟨before, after, hdone⟩ := List.append_of_mem hf
  obtain ⟨j, hj⟩ := List.getElem?_of_mem hk
  obtain ⟨p, hp⟩ := exists_getElem?_of_length hof.plan.foreignKeys_length hj
  have hpOf := hof.plan.foreignKeys j k p hj hp
  obtain ⟨target', htarget', hkeys⟩ := (hcomplete.underway hplanned hdone).exists_parent_count
    hof.table hof.plan (List.mem_of_getElem? hp)
  rw [hpOf.targetTable, htarget] at htarget'
  cases htarget'
  have hnext := (hdone ▸ hcomplete.finished).isNext
  obtain ⟨report, hok⟩ := TableJob.generate_complete hnext.rows hnext.count
  have hcount : (run.jobAfter before f).plan.count ≠ 0 := by
    rw [Run.jobAfter, Run.job, count_of_ofTable hofTable]
    exact Nat.ne_of_gt hrows
  obtain ⟨found, hfound⟩ := TableJob.exists_emptyParent? hcount
    (List.mem_of_getElem? hp) (hkeys.trans (hplanned.options ▸ hnone))
  unfold TableJob.generate at hok
  rw [hfound] at hok
  cases hok

theorem fails_for_parents (hcompile : s.compile = .ok (m, order)) (o : Options) (seed : UInt64) :
    FailsForParents s m o seed :=
  ⟨fun _ _ => exists_starved_of_run hcompile,
    fun _ ht _ hk _ htarget hrows hnone _ => not_run_of_starved hcompile ht hk htarget hrows hnone,
    fun _ _ hplan hnone _ _ =>
      TableJob.generate_of_count_eq_zero ((count_of_ofTable hplan).trans hnone)⟩

def orphanSchema : Schema :=
  { name := "orphans"
    tables := [
      { name := "child"
        fields := [{
          name := "parent"
          dataType := .primitive .integer
          constraints := [.foreignKey ⟨none, [], "parent", ["id"], none⟩] }]
        directive := some { count := some 1 } },
      { name := "parent"
        fields := [{
          name := "id"
          dataType := .primitive .integer
          constraints := [.primaryKey none []] }]
        directive := some { count := some 0 } }] }

theorem fails_for_parents_orphans : ∃ m order, orphanSchema.compile = .ok (m, order) ∧
    Generation.run orphanSchema {} 0 = .error (.emptyReferenceSet "child" "parent") ∧
    FailsForParents orphanSchema m {} 0 := by
  have hcompile : orphanSchema.compile.toOption.isSome := by
    decide +kernel
  have hrun : (match Generation.run orphanSchema {} 0 with
      | .error e => decide (e = .emptyReferenceSet "child" "parent")
      | .ok _ => false) = true := by
    decide +kernel
  obtain ⟨⟨m, order⟩, hcompiled⟩ := Option.isSome_iff_exists.mp hcompile
  have hcompiled := toOption_eq_some.mp hcompiled
  refine ⟨m, order, hcompiled, ?_, fails_for_parents hcompiled {} 0⟩
  split at hrun
  · next e heq => rw [heq, of_decide_eq_true hrun]
  · cases hrun

end Fixtures.Generation
