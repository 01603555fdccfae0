import Fixtures.Proofs.Generation.Planning
import Fixtures.Proofs.Generation.TableByTable

namespace Fixtures.Generation

variable {r : References} {table target : String} {fields names : List String}
  {tuples : List (List Value)} {tuple : List Value} {set : ReferenceSet}

theorem set?_register : (r.register table fields tuples).set? target names =
    if (table, fields) = (target, names) then
      some (.ofTuples (tuples.filter fun tuple => !tuple.any Value.isNull))
    else r.set? target names := by
  unfold References.register References.set?
  by_cases h : (table, fields) = (target, names)
  · simp [h]
  · rw [List.find?_cons_of_neg (by simpa using h), if_neg h, List.find?_filter]
    congr 2
    funext s
    by_cases hs : s.1 = (target, names)
    · have hne : (target, names) ≠ (table, fields) := fun heq => h heq.symm
      simp only [hs, ne_eq, hne, not_false_eq_true, and_self, decide_true]
    · simp [hs]

def KeyOfRow (t : Model.Table) (fields : List String) (rows : List SampledRow)
    (tuple : List Value) : Prop :=
  ∃ row ∈ rows, tuple = project t fields row.values ∧ ∀ v ∈ tuple, v ≠ .null

def keptSet (t : Model.Table) (fields : List String) (rows : List SampledRow) : ReferenceSet :=
  .ofTuples ((rows.map fun row => project t fields row.values).filter fun tuple =>
    !tuple.any Value.isNull)

theorem keyOfRow_of_mem_keptSet {t : Model.Table} {rows : List SampledRow}
    (h : tuple ∈ (keptSet t fields rows).tuples) : KeyOfRow t fields rows tuple := by
  obtain ⟨hmem, hnull⟩ := List.mem_filter.mp h
  obtain ⟨row, hrow, rfl⟩ := List.mem_map.mp hmem
  refine ⟨row, hrow, rfl, fun v hv heq => ?_⟩
  simp only [Bool.not_eq_true', List.any_eq_false] at hnull
  exact hnull v hv (by rw [heq]; rfl)

theorem set?_registerRows {t : Model.Table} {plans : List TablePlan} {rows : List SampledRow} :
    (registerRows r t plans rows).set? target names =
      if t.name = target ∧ names ∈ referenceLists t plans then some (keptSet t names rows)
      else r.set? target names := by
  unfold registerRows
  generalize referenceLists t plans = lists
  induction lists generalizing r with
  | nil => simp
  | cons fields lists ih =>
    rw [List.foldl_cons, ih, set?_register]
    by_cases hname : t.name = target
    · by_cases hlater : names ∈ lists
      · simp [hname, hlater]
      · by_cases hfields : fields = names
        · simp [hname, hlater, hfields, keptSet]
        · simp [hname, hlater, hfields, Ne.symm hfields]
    · simp [hname]

theorem keyOfRow_of_registerRows {t : Model.Table} {plans : List TablePlan} {rows : List SampledRow}
    (hset : (registerRows r t plans rows).set? target names = some set)
    (htuple : tuple ∈ set.tuples) :
    (t.name = target ∧ KeyOfRow t names rows tuple) ∨ r.set? target names = some set := by
  rw [set?_registerRows] at hset
  split at hset
  · next hkept =>
    cases hset
    exact .inl ⟨hkept.1, keyOfRow_of_mem_keptSet htuple⟩
  · exact .inr hset

theorem keyOfRow_of_referencesAfter {run : Run} {done : List Finished}
    (hset : (run.referencesAfter done).set? target names = some set) (htuple : tuple ∈ set.tuples) :
    ∃ f ∈ done, f.table.name = target ∧ KeyOfRow f.table names f.rows tuple := by
  have key : ∀ r : References,
      (done.foldl (fun r f => registerRows r f.table run.plans f.rows) r).set? target names =
          some set →
        (∃ f ∈ done, f.table.name = target ∧ KeyOfRow f.table names f.rows tuple) ∨
          r.set? target names = some set := by
    clear hset
    induction done with
    | nil => exact fun r h => .inr h
    | cons f done ih =>
      intro r h
      rcases ih _ h with ⟨g, hg, hkey⟩ | hold
      · exact .inl ⟨g, List.mem_cons_of_mem _ hg, hkey⟩
      · rcases keyOfRow_of_registerRows hold htuple with ⟨hname, hkey⟩ | hold
        · exact .inl ⟨f, List.mem_cons_self, hname, hkey⟩
        · exact .inr hold
  rcases key {} hset with hkey | hnone
  · exact hkey
  · cases hnone

theorem mem_foldl_addFields {targets : List ForeignKeyPlan} {lists : List (List String)} :
    names ∈ targets.foldl (fun lists k =>
      if lists.contains k.targetFields then lists else lists ++ [k.targetFields]) lists ↔
    names ∈ lists ∨ ∃ k ∈ targets, k.targetFields = names := by
  induction targets generalizing lists with
  | nil => simp
  | cons k targets ih =>
    rw [List.foldl_cons, ih]
    simp only [List.mem_cons, exists_eq_or_imp, ← or_assoc]
    refine or_congr_left ?_
    by_cases hold : k.targetFields ∈ lists
    · have habsorbed : k.targetFields = names → names ∈ lists := fun heq => heq ▸ hold
      simp only [List.contains_iff_mem, hold, if_true]
      exact ⟨.inl, fun h => h.elim id habsorbed⟩
    · simp only [List.contains_iff_mem, hold, if_false, List.mem_append, List.mem_singleton]
      rw [eq_comm (a := names)]

theorem mem_referenceLists {t : Model.Table} {plans : List TablePlan} {plan : TablePlan}
    {k : ForeignKeyPlan} (hplan : plan ∈ plans) (hk : k ∈ plan.foreignKeys)
    (htarget : k.targetTable = t.name) : k.targetFields ∈ referenceLists t plans := by
  refine mem_foldl_addFields.mpr (.inr ⟨k, List.mem_filter.mpr ⟨?_, by simpa using htarget⟩, rfl⟩)
  exact List.mem_flatMap.mpr ⟨plan, hplan, hk⟩

theorem set?_foldl_registerRows {plans : List TablePlan} {done : List Finished}
    (h : ∀ f ∈ done, f.table.name ≠ target) :
    (done.foldl (fun r f => registerRows r f.table plans f.rows) r).set? target names =
      r.set? target names := by
  induction done generalizing r with
  | nil => rfl
  | cons f done ih =>
    obtain ⟨hf, hdone⟩ := List.forall_mem_cons.mp h
    rw [List.foldl_cons, ih hdone, set?_registerRows, if_neg fun hkept => hf hkept.1]

/-- Of tables with different names the set for a list of fields is kept of the rows of one. -/
theorem set?_referencesAfter {run : Run} {done : List Finished} {f : Finished}
    (hnodup : (done.map fun f => f.table.name).Nodup) (hf : f ∈ done)
    (hnames : names ∈ referenceLists f.table run.plans) :
    (run.referencesAfter done).set? f.table.name names = some (keptSet f.table names f.rows) := by
  obtain ⟨before, after, rfl⟩ := List.append_of_mem hf
  rw [List.map_append, List.map_cons, List.nodup_append, List.nodup_cons] at hnodup
  have hafter : ∀ g ∈ after, g.table.name ≠ f.table.name :=
    fun g hg heq => hnodup.2.1.1 (heq ▸ List.mem_map_of_mem hg)
  rw [Run.referencesAfter, List.foldl_append, List.foldl_cons, set?_foldl_registerRows hafter,
    set?_registerRows, if_pos ⟨rfl, hnames⟩]

theorem getElem?_project {t : Model.Table} (values : List Value)
    (hfields : ∀ name ∈ fields, ∃ i, t.fieldIndex? name = some i) :
    (project t fields values).length = fields.length ∧ ∀ (j : Nat) name, fields[j]? = some name →
      ∃ i, t.fieldIndex? name = some i ∧
        (project t fields values)[j]? = some (values.getD i .null) := by
  induction fields with
  | nil => simp [project]
  | cons name fields ih =>
    obtain ⟨⟨i, hi⟩, hrest⟩ := List.forall_mem_cons.mp hfields
    obtain ⟨hlength, hall⟩ := ih hrest
    have hcons : project t (name :: fields) values =
        values.getD i .null :: project t fields values := by
      simp [project, hi]
    rw [hcons]
    refine ⟨by simp [hlength], fun j name' hname' => ?_⟩
    cases j with
    | zero =>
      cases hname'
      exact ⟨i, hi, rfl⟩
    | succ j => exact hall j name' hname'

end Fixtures.Generation
