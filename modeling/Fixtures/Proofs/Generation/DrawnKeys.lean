import Fixtures.Proofs.Generation.KeptKeys
import Fixtures.Proofs.Generation.RowValues
import Fixtures.Proofs.Model.Lookup

namespace Fixtures.Generation.TableJob

variable {values tuple : List Value} {members : List (Nat × Value)}
  {i j n : Nat} {v : Value} {k : ForeignKeyPlan} {picks : List (ForeignKeyPlan × List Value)}

theorem length_setAll (values : List Value) (members : List (Nat × Value)) :
    (setAll values members).length = values.length := by
  induction members generalizing values with
  | nil => rfl
  | cons m members ih => exact (ih _).trans List.length_set

theorem getElem?_setAll_of_not_mem (h : ∀ m ∈ members, m.1 ≠ i) :
    (setAll values members)[i]? = values[i]? := by
  induction members generalizing values with
  | nil => rfl
  | cons m members ih =>
    obtain ⟨hm, hrest⟩ := List.forall_mem_cons.mp h
    exact (ih hrest).trans (List.getElem?_set_ne hm)

theorem getElem?_setAll (hnodup : (members.map Prod.fst).Nodup) (hmem : (i, v) ∈ members)
    (hi : i < values.length) : (setAll values members)[i]? = some v := by
  induction members generalizing values with
  | nil => cases hmem
  | cons m members ih =>
    rw [List.map_cons, List.nodup_cons] at hnodup
    rcases List.mem_cons.mp hmem with rfl | hmem
    · have hother : ∀ n ∈ members, n.1 ≠ i :=
        fun n hn heq => hnodup.1 (List.mem_map.mpr ⟨n, hn, heq⟩)
      exact (getElem?_setAll_of_not_mem hother).trans (List.getElem?_set_self hi)
    · exact ih hnodup.2 hmem (by rwa [List.length_set])

theorem length_overlay (values : List Value) (picks : List (ForeignKeyPlan × List Value)) :
    (overlay values picks).length = values.length := by
  induction picks generalizing values with
  | nil => rfl
  | cons p picks ih => exact (ih _).trans (length_setAll _ _)

theorem getElem?_overlay_of_not_mem (h : ∀ p ∈ picks, i ∉ p.1.fields) :
    (overlay values picks)[i]? = values[i]? := by
  induction picks generalizing values with
  | nil => rfl
  | cons p picks ih =>
    obtain ⟨hp, hrest⟩ := List.forall_mem_cons.mp h
    refine (ih hrest).trans (getElem?_setAll_of_not_mem fun m hm heq => hp ?_)
    exact heq ▸ (List.of_mem_zip hm).1

theorem getElem?_overlay (hpick : picks[n]? = some (k, tuple)) (hnodup : k.fields.Nodup)
    (hlength : tuple.length = k.fields.length) (hfield : k.fields[j]? = some i)
    (hv : tuple[j]? = some v) (hlater : ∀ (n' : Nat) p, n < n' → picks[n']? = some p →
      i ∉ p.1.fields)
    (hi : i < values.length) : (overlay values picks)[i]? = some v := by
  have hsplit : picks = picks.take n ++ (k, tuple) :: picks.drop (n + 1) := by
    obtain ⟨hn, heq⟩ := List.getElem?_eq_some_iff.mp hpick
    rw [← heq, List.getElem_cons_drop, List.take_append_drop]
  have hstep : overlay values picks = overlay
      (setAll (overlay values (picks.take n)) (k.fields.zip tuple)) (picks.drop (n + 1)) :=
    calc overlay values picks
      _ = overlay values (picks.take n ++ (k, tuple) :: picks.drop (n + 1)) := by rw [← hsplit]
      _ = _ := List.foldl_append
  have hpost : ∀ p ∈ picks.drop (n + 1), i ∉ p.1.fields := by
    intro p hp
    obtain ⟨n', hn'⟩ := List.getElem?_of_mem hp
    rw [List.getElem?_drop] at hn'
    exact hlater _ p (by omega) hn'
  have hmem : (i, v) ∈ k.fields.zip tuple :=
    List.mem_of_getElem? (List.getElem?_zip_eq_some.mpr ⟨hfield, hv⟩)
  have hfirst : ((k.fields.zip tuple).map Prod.fst).Nodup := by
    rwa [List.map_fst_zip (Nat.le_of_eq hlength.symm)]
  rw [hstep, getElem?_overlay_of_not_mem hpost]
  exact getElem?_setAll hfirst hmem (by rwa [length_overlay])

end Fixtures.Generation.TableJob

namespace Fixtures.Generation

variable {s : Schema} {m : Model} {run : Run} {done : List Finished} {f : Finished} {r : Record}

/-- A finished table of a model under the plan that is made for it. -/
structure Finished.IsOf (m : Model) (f : Finished) : Prop where
  table : m.table? f.plan.name = some f.table
  plan : f.plan.IsOf f.table

theorem Finished.IsOf.mem (h : f.IsOf m) : f.table ∈ m.tables :=
  List.mem_of_find?_eq_some h.table

theorem Finished.IsOf.table?_name (h : f.IsOf m) : m.table? f.table.name = some f.table := by
  rw [← h.plan.name]
  exact h.table

theorem Finished.mem_records (hr : r ∈ f.records) : ∃ row ∈ f.rows, r.values = row.values ∧
    r.fields = f.plan.fieldNames := by
  unfold records at hr
  obtain ⟨i, hi, rfl⟩ := List.mem_mapIdx.mp hr
  exact ⟨_, List.getElem_mem hi, rfl, rfl⟩

theorem Finished.exists_record {row : SampledRow} (hrow : row ∈ f.rows) :
    ∃ r ∈ f.records, r.values = row.values ∧ r.fields = f.plan.fieldNames := by
  obtain ⟨i, hi, rfl⟩ := List.getElem_of_mem hrow
  exact ⟨_, List.mem_mapIdx.mpr ⟨i, hi, rfl⟩, rfl, rfl⟩

theorem Finished.IsOf.get?_record (h : f.IsOf m) (hr : r.fields = f.plan.fieldNames)
    (field : String) :
    r.get? field = (f.table.fieldIndex? field).bind fun i => r.values[i]? := by
  have hindex : r.fields.findIdx? (· = field) = f.table.fieldIndex? field := by
    rw [hr, h.plan.fieldNames, Model.Table.fieldNames, List.findIdx?_map]
    rfl
  unfold Record.get?
  rw [hindex]
  cases f.table.fieldIndex? field <;> rfl

theorem exists_parent {t : Model.Table} {k : ForeignKey} {set : ReferenceSet} {tuple : List Value}
    (hmodel : m.IsOf s) (hdone : ∀ g ∈ done, g.IsOf m) (ht : t ∈ m.tables) (hk : k ∈ t.foreignKeys)
    (hset : (run.referencesAfter done).set? k.targetTable k.targetFields = some set)
    (htuple : tuple ∈ set.tuples) :
    tuple.length = k.fields.length ∧ ∃ parent ∈ done, parent.table.name = k.targetTable ∧
      ∃ d ∈ parent.records, ∀ (l : Nat) y, k.targetFields[l]? = some y →
        ∃ v, v ≠ .null ∧ tuple[l]? = some v ∧ d.get? y = some v := by
  obtain ⟨parent, hparent, hname, row, hrow, rfl, hnull⟩ := keyOfRow_of_referencesAfter hset htuple
  have hof := hdone parent hparent
  obtain ⟨target, htarget, hrefers⟩ := hmodel.refers ht hk
  have heq : target = parent.table := by
    rw [← hname, hof.table?_name] at htarget
    exact (Option.some.inj htarget).symm
  subst heq
  have hfields : ∀ y ∈ k.targetFields, ∃ i, parent.table.fieldIndex? y = some i := by
    intro y hy
    obtain ⟨g, hg⟩ := hrefers.exists_target hy
    exact Model.Table.exists_fieldIndex? hg
  obtain ⟨hlength, hproject⟩ := getElem?_project row.values hfields
  refine ⟨hlength.trans hrefers.length, parent, hparent, hname, ?_⟩
  obtain ⟨d, hd, hvalues, hnames⟩ := Finished.exists_record hrow
  refine ⟨d, hd, fun l y hy => ?_⟩
  obtain ⟨i, hi, hv⟩ := hproject l y hy
  have hne := hnull _ (List.mem_of_getElem? hv)
  refine ⟨_, hne, hv, ?_⟩
  rw [hof.get?_record hnames, hi, Option.bind_some, hvalues]
  cases hget : row.values[i]? with
  | none => simp [List.getD_eq_getElem?_getD, hget] at hne
  | some v => simp [List.getD_eq_getElem?_getD, hget]

namespace TableJob

variable {job : TableJob} {k : ForeignKeyPlan} {tuple values : List Value} {i l n : Nat} {v : Value}
  {picks : List (ForeignKeyPlan × List Value)} {field : Model.Field} {plan : FieldPlan}

theorem RowByRow.attempted {rows : List SampledRow} (h : job.RowByRow rows) :
    ∀ row ∈ rows, ∃ picks, job.Attempted picks row.values := by
  induction h with
  | start => simp
  | next _ hs _ ih =>
    intro row hrow
    rcases List.mem_append.mp hrow with hrow | hrow
    · exact ih row hrow
    · rw [List.mem_singleton.mp hrow]
      exact attempted_of_rowValues hs.values

theorem Attempted.length_values (h : job.Attempted picks values) (hplan : job.plan.IsOf job.table) :
    values.length = job.table.fields.length := by
  have hfields := hplan.length
  simpa [length_overlay, hfields] using h.length

theorem Attempted.filled_at (h : job.Attempted picks values) (hplan : job.plan.IsOf job.table)
    (hfield : job.table.fields[i]? = some field) (hv : values[i]? = some v) : ∃ plan current,
      plan.IsOf job.table job.plan.foreignKeys i field ∧
        (overlay (List.replicate job.plan.fields.length .null) picks)[i]? = some current ∧
        Filled plan field current v := by
  obtain ⟨plan, hp⟩ := exists_getElem?_of_length hplan.length hfield
  obtain ⟨current, hc⟩ :
      ∃ current, (overlay (List.replicate job.plan.fields.length .null) picks)[i]? = some current :=
    exists_getElem?_of_length (by rw [length_overlay, List.length_replicate]) hp
  exact ⟨plan, current, hplan.fields i field plan hfield hp, hc,
    h.filled i plan field current v hp hfield hc hv⟩

theorem Attempted.eq_null_of_not_mem {current : Value} (h : job.Attempted picks values)
    (hoff : ∀ k ∈ job.plan.foreignKeys, i ∉ k.fields)
    (hcurrent : (overlay (List.replicate n .null) picks)[i]? = some current) : current = .null := by
  have hpicks : ∀ p ∈ picks, i ∉ p.1.fields := by
    intro p hp
    refine hoff p.1 ?_
    rw [← h.picked.keys]
    exact List.mem_map_of_mem hp
  rw [getElem?_overlay_of_not_mem hpicks, List.getElem?_replicate] at hcurrent
  split at hcurrent
  · exact (Option.some.inj hcurrent).symm
  · cases hcurrent

theorem Attempted.getElem?_of_last (h : job.Attempted picks values)
    (hplan : job.plan.IsOf job.table) (hpick : picks[n]? = some (k, tuple))
    (hnodup : k.fields.Nodup) (hlength : tuple.length = k.fields.length)
    (hmember : k.fields[l]? = some i) (htuple : tuple[l]? = some v)
    (hlater : ∀ (n' : Nat) p, n < n' → picks[n']? = some p → i ∉ p.1.fields)
    (hfield : job.table.fields[i]? = some field) : values[i]? = some v := by
  obtain ⟨w, hv⟩ := exists_getElem?_of_length (h.length_values hplan) hfield
  obtain ⟨plan, current, hof, hcurrent, hfilled⟩ := h.filled_at hplan hfield hv
  have hi := (List.getElem?_eq_some_iff.mp hfield).1
  rw [getElem?_overlay hpick hnodup hlength hmember htuple hlater
    (by rw [List.length_replicate, hplan.length]; exact hi)] at hcurrent
  have hkey : plan.foreignKey.isSome = true := by
    rw [hof.foreignKey, lastIndex?_isSome, ← h.picked.keys]
    exact ⟨k, List.mem_map.mpr ⟨_, List.mem_of_getElem? hpick, rfl⟩,
      by simpa using List.mem_of_getElem? hmember⟩
  rw [hv, hcurrent]
  cases hfilled with
  | reference => rfl
  | blank hnone => simp [hnone] at hkey
  | made hnone => simp [hnone] at hkey

theorem Drawn.refusal?_eq_none (h : job.Drawn k tuple) (hmember : k.fields[l]? = some i)
    (htuple : tuple[l]? = some v) (hfield : job.table.fields[i]? = some field) :
    field.domain.refusal? v = none := by
  have hall := List.findSome?_eq_none_iff.mp h.admitted (i, v)
    (List.mem_of_getElem? (List.getElem?_zip_eq_some.mpr ⟨hmember, htuple⟩))
  simpa [domainAt, hfield] using hall

end TableJob

/-- Records of the target tables that the foreign keys of a record are drawn from, one for each of
them. A value is that of the field it is paired with as long as no later key has the field, too. -/
structure DrawnFrom (done : List Finished) (t : Model.Table) (r : Record) (draws : List Record) :
    Prop where
  length : draws.length = t.foreignKeys.length
  parents : ∀ (j : Nat) k d, t.foreignKeys[j]? = some k → draws[j]? = some d →
    ∃ parent ∈ done, parent.table.name = k.targetTable ∧ d ∈ parent.records
  values : ∀ (j : Nat) k d, t.foreignKeys[j]? = some k → draws[j]? = some d →
    ∀ (l : Nat) x y, k.fields[l]? = some x → k.targetFields[l]? = some y →
    (∀ (j' : Nat) k', j < j' → t.foreignKeys[j']? = some k' → x ∉ k'.fields) →
    ∃ v field, v ≠ .null ∧ r.get? x = some v ∧ d.get? y = some v ∧ t.field? x = some field ∧
      field.domain.refusal? v = none

theorem exists_parents {picks : List (ForeignKeyPlan × List Value)} {values : List Value}
    (hmodel : m.IsOf s) (hdone : ∀ g ∈ done, g.IsOf m) (hf : f.IsOf m)
    (h : (run.jobAfter done f).Attempted picks values) :
    ∃ draws : List Record, draws.length = f.table.foreignKeys.length ∧
      ∀ (j : Nat) k d, f.table.foreignKeys[j]? = some k → draws[j]? = some d →
        ∃ plan tuple, picks[j]? = some (plan, tuple) ∧ plan.IsOf f.table k ∧
          tuple.length = k.fields.length ∧
          (∃ parent ∈ done, parent.table.name = k.targetTable ∧ d ∈ parent.records) ∧
          ∀ (l : Nat) y, k.targetFields[l]? = some y →
            ∃ v, v ≠ .null ∧ tuple[l]? = some v ∧ d.get? y = some v := by
  have hkeys : picks.map Prod.fst = f.plan.foreignKeys := h.picked.keys
  have hlength : picks.length = f.table.foreignKeys.length := by
    rw [← hf.plan.foreignKeys_length, ← hkeys, List.length_map]
  have hparents : ∀ p ∈ f.table.foreignKeys.zip picks, ∃ d : Record, p.2.1.IsOf f.table p.1 ∧
      p.2.2.length = p.1.fields.length ∧
      (∃ parent ∈ done, parent.table.name = p.1.targetTable ∧ d ∈ parent.records) ∧
      ∀ (l : Nat) y, p.1.targetFields[l]? = some y →
        ∃ v, v ≠ .null ∧ p.2.2[l]? = some v ∧ d.get? y = some v := by
    intro p hp
    obtain ⟨j, hj⟩ := List.getElem?_of_mem hp
    obtain ⟨hk, hp⟩ := List.getElem?_zip_eq_some.mp hj
    have hplan : f.plan.foreignKeys[j]? = some p.2.1 := by
      rw [← hkeys, List.getElem?_map, hp]
      rfl
    have hof := hf.plan.foreignKeys j p.1 p.2.1 hk hplan
    obtain ⟨set, hset, hmem⟩ := (h.picked.drawn p.2 (List.mem_of_getElem? hp)).kept
    rw [hof.targetTable, hof.targetFields] at hset
    obtain ⟨hlen, parent, hparent, hname, d, hd, hall⟩ :=
      exists_parent hmodel hdone hf.mem (List.mem_of_getElem? hk) hset hmem
    exact ⟨d, hof, hlen, ⟨parent, hparent, hname, hd⟩, hall⟩
  obtain ⟨draws, hdraws, hall⟩ := exists_choices hparents
  refine ⟨draws, by simp [hdraws, hlength], fun j k d hk hd => ?_⟩
  obtain ⟨⟨plan, tuple⟩, hp⟩ := exists_getElem?_of_length hlength hk
  exact ⟨plan, tuple, hp, hall j (k, plan, tuple) d (List.getElem?_zip_eq_some.mpr ⟨hk, hp⟩) hd⟩

theorem exists_draws (hmodel : m.IsOf s) (hdone : ∀ g ∈ done, g.IsOf m) (hf : f.IsOf m)
    (hnext : run.IsNext done f) (hr : r ∈ f.records) : ∃ draws, DrawnFrom done f.table r draws := by
  obtain ⟨row, hrow, hvalues, hnames⟩ := Finished.mem_records hr
  obtain ⟨picks, hattempted⟩ := hnext.rows.attempted row hrow
  obtain ⟨draws, hlength, hall⟩ := exists_parents hmodel hdone hf hattempted
  refine ⟨draws, hlength, fun j k d hk hd => ?_, fun j k d hk hd l x y hx hy hlater => ?_⟩
  · obtain ⟨-, -, -, -, -, hparent, -⟩ := hall j k d hk hd
    exact hparent
  · obtain ⟨plan, tuple, hpick, hof, htuple, -, hpairs⟩ := hall j k d hk hd
    obtain ⟨v, hne, hv, hget⟩ := hpairs l y hy
    obtain ⟨i, hmember, hindex⟩ := positions_of_getElem? hof.fields hx
    obtain ⟨field, hfield, -, hfield?⟩ := Model.Table.fieldIndex?_eq_some hindex
    obtain ⟨target, -, hrefers⟩ := hmodel.refers hf.mem (List.mem_of_getElem? hk)
    -- Rows are filled by positions, and later keys are told by the names of their fields.
    have hlast : ∀ (j' : Nat) p, j < j' → picks[j']? = some p → i ∉ p.1.fields := by
      intro j' p hj' hp
      have hlengths : f.table.foreignKeys.length = picks.length := by
        rw [← hf.plan.foreignKeys_length, ← List.length_map Prod.fst]
        exact congrArg List.length hattempted.picked.keys.symm
      obtain ⟨k', hk'⟩ := exists_getElem?_of_length hlengths hp
      obtain ⟨d', hd'⟩ := exists_getElem?_of_length hlength hk'
      obtain ⟨plan', tuple', hp', hof', -⟩ := hall j' k' d' hk' hd'
      rw [hp] at hp'
      cases hp'
      rw [hof'.mem_fields hindex]
      exact hlater j' k' hj' hk'
    have hvalue : row.values[i]? = some v :=
      hattempted.getElem?_of_last hf.plan hpick (nodup_of_positions hrefers.nodup hof.fields)
        (htuple.trans (length_of_mapM hof.fields).symm) hmember hv hlast hfield
    refine ⟨v, field, hne, ?_, hget, hfield?, ?_⟩
    · rw [hf.get?_record hnames, hindex, Option.bind_some, hvalues, hvalue]
    · exact (hattempted.picked.drawn _ (List.mem_of_getElem? hpick)).refusal?_eq_none hmember hv
        hfield

end Fixtures.Generation
