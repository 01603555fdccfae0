import Fixtures.Proofs.Generation.CompleteRun

namespace Fixtures

namespace Model.Table

/-- A field that may be null: it is not declared otherwise and in no key. -/
structure MayBeNull (t : Table) (f : Field) : Prop where
  nullable : f.nullable = true
  keys : ∀ k ∈ t.keys, f.name ∉ k.fields
  foreignKeys : ∀ k ∈ t.foreignKeys, f.name ∉ k.fields

/-- A record with a value for each field of a table in order. -/
structure Conforms (t : Table) (r : Record) : Prop where
  fields : r.fields = t.fieldNames
  length : r.values.length = t.fields.length
  values : ∀ (i : Nat) f v, t.fields[i]? = some f → r.values[i]? = some v →
    (v = .null ∧ t.MayBeNull f) ∨ f.Fits v

end Model.Table

namespace Generation

variable {s : Schema} {o : Options} {seed : UInt64} {out : Output} {m : Model} {run : Run}
  {done : List Finished} {f : Finished} {r : Record}

theorem fits_of_get? {t : Model.Table} {d : Record} {field : String} {g : Model.Field} {v : Value}
    (h : t.Conforms d) (hg : t.field? field = some g) (hv : d.get? field = some v)
    (hne : v ≠ .null) : g.Fits v := by
  obtain ⟨i, hi⟩ := Model.Table.exists_fieldIndex? hg
  obtain ⟨g', hg', -, hfield⟩ := Model.Table.fieldIndex?_eq_some hi
  rw [hg] at hfield
  cases hfield
  have hindex : d.fields.findIdx? (· = field) = t.fieldIndex? field := by
    rw [h.fields, Model.Table.fieldNames, List.findIdx?_map]
    rfl
  rw [Record.get?, hindex, hi] at hv
  rcases h.values i g v hg' hv with ⟨hnull, -⟩ | hfits
  · exact absurd hnull hne
  · exact hfits

/-- A value that is drawn from conforming records of the target table fits the field. -/
theorem fits_of_drawn {t : Model.Table} {draws : List Record} {j : Nat} {k : ForeignKey}
    {field : Model.Field} {v : Value} (hmodel : m.IsOf s) (ht : t ∈ m.tables)
    (hparents : ∀ g ∈ done, g.IsOf m ∧ ∀ d ∈ g.records, g.table.Conforms d)
    (hdrawn : DrawnFrom done t r draws) (hk : t.foreignKeys[j]? = some k)
    (hmember : field.name ∈ k.fields) (hfield : t.field? field.name = some field)
    (hlast : ∀ (j' : Nat) k', j < j' → t.foreignKeys[j']? = some k' → field.name ∉ k'.fields)
    (hv : r.get? field.name = some v) : field.Fits v := by
  obtain ⟨d, hd⟩ := exists_getElem?_of_length hdrawn.length hk
  obtain ⟨target, htarget, hrefers⟩ := hmodel.refers ht (List.mem_of_getElem? hk)
  obtain ⟨l, hl⟩ := List.getElem?_of_mem hmember
  obtain ⟨y, hy⟩ := exists_getElem?_of_length hrefers.length hl
  obtain ⟨w, field', hne, hget, hgetd, hfield', hadmitted⟩ :=
    hdrawn.values j k d hk hd l field.name y hl hy hlast
  rw [hv] at hget
  cases hget
  rw [hfield] at hfield'
  cases hfield'
  obtain ⟨parent, hparent, hname, hmem⟩ := hdrawn.parents j k d hk hd
  obtain ⟨hof, hconforms⟩ := hparents parent hparent
  have heq : target = parent.table := by
    rw [← hname, hof.table?_name] at htarget
    exact (Option.some.inj htarget).symm
  subst heq
  obtain ⟨g, hg, hsame⟩ := hrefers.pairs l field.name y hl hy
  have hfits := fits_of_get? (hconforms d hmem) hg hgetd hne
  refine ⟨?_, hadmitted⟩
  rw [hsame field hfield]
  exact hfits.hasType

theorem not_mem_of_foreignKey_eq_none {t : Model.Table} {plan : TablePlan} {p : FieldPlan} {i : Nat}
    {field : Model.Field} (hof : p.IsOf t plan.foreignKeys i field) (hnone : p.foreignKey = none) :
    ∀ k ∈ plan.foreignKeys, i ∉ k.fields := by
  intro k hk hi
  have hsome : p.foreignKey.isSome = true := by
    rw [hof.foreignKey, lastIndex?_isSome]
    exact ⟨k, hk, by simpa using hi⟩
  simp [hnone] at hsome

theorem mayBeNull_of_plan {t : Model.Table} {plan : TablePlan} {p : FieldPlan} {i : Nat}
    {field : Model.Field} (hplan : plan.IsOf t) (hof : p.IsOf t plan.foreignKeys i field)
    (hindex : t.fieldIndex? field.name = some i) (hnullable : p.nullable = true) :
    t.MayBeNull field := by
  rw [hof.nullable] at hnullable
  simp only [Bool.and_eq_true, Option.isNone_iff_eq_none, Bool.not_eq_true', List.any_eq_false,
    List.contains_iff_mem] at hnullable
  obtain ⟨⟨hfield, hforeign⟩, hkeys⟩ := hnullable
  refine ⟨hfield, hkeys, fun k hk hmem => ?_⟩
  obtain ⟨j, hj⟩ := List.getElem?_of_mem hk
  obtain ⟨kp, hkp⟩ := exists_getElem?_of_length hplan.foreignKeys_length hj
  have hi := ((hplan.foreignKeys j k kp hj hkp).mem_fields hindex).mpr hmem
  exact not_mem_of_foreignKey_eq_none hof hforeign kp (List.mem_of_getElem? hkp) hi

theorem exists_last_foreignKey {t : Model.Table} {plan : TablePlan} {p : FieldPlan} {i : Nat}
    {field : Model.Field} (hplan : plan.IsOf t) (hof : p.IsOf t plan.foreignKeys i field)
    (hindex : t.fieldIndex? field.name = some i) (hsome : p.foreignKey.isSome = true) :
    ∃ (j : Nat) (k : ForeignKey), t.foreignKeys[j]? = some k ∧ field.name ∈ k.fields ∧
      ∀ (j' : Nat) k', j < j' → t.foreignKeys[j']? = some k' → field.name ∉ k'.fields := by
  rw [hof.foreignKey, lastIndex?_isSome] at hsome
  obtain ⟨kp, hkp, hi⟩ := hsome
  obtain ⟨j, hj⟩ := List.getElem?_of_mem hkp
  obtain ⟨k, hk⟩ := exists_getElem?_of_length hplan.foreignKeys_length.symm hj
  have hmem := ((hplan.foreignKeys j k kp hk hj).mem_fields hindex).mp (by simpa using hi)
  exact exists_last ⟨k, List.mem_of_getElem? hk, hmem⟩

theorem conforms_of_isNext (hmodel : m.IsOf s)
    (hparents : ∀ g ∈ done, g.IsOf m ∧ ∀ d ∈ g.records, g.table.Conforms d) (hf : f.IsOf m)
    (hnext : run.IsNext done f) : ∀ r ∈ f.records, f.table.Conforms r := by
  intro r hr
  obtain ⟨row, hrow, hvalues, hnames⟩ := Finished.mem_records hr
  obtain ⟨picks, hattempted⟩ := hnext.rows.attempted row hrow
  obtain ⟨declared, -, hdeclared⟩ := hmodel.mem_tables hf.mem
  refine ⟨hnames.trans hf.plan.fieldNames, ?_, fun i field v hfield hv => ?_⟩
  · rw [hvalues]
    exact hattempted.length_values hf.plan
  · have hindex := Model.Table.fieldIndex?_of_nodup hdeclared.nodup_fieldNames hfield
    have hrowValue : row.values[i]? = some v := hvalues ▸ hv
    obtain ⟨p, current, hof, hcurrent, hfilled⟩ := hattempted.filled_at hf.plan hfield hrowValue
    cases hfilled with
    | reference hsome =>
      obtain ⟨j, k, hk, hmember, hlast⟩ := exists_last_foreignKey hf.plan hof hindex hsome
      obtain ⟨draws, hdrawn⟩ := exists_draws hmodel (fun g hg => (hparents g hg).1) hf hnext hr
      have hget : r.get? field.name = some v := by
        rw [hf.get?_record hnames, hindex, Option.bind_some, hv]
      obtain ⟨field', hfield', -, hlookup⟩ := Model.Table.fieldIndex?_eq_some hindex
      rw [hfield] at hfield'
      cases hfield'
      exact .inr (fits_of_drawn hmodel hf.mem hparents hdrawn hk hmember hlookup hlast hget)
    | blank hnone hnullable =>
      have hnull := hattempted.eq_null_of_not_mem (not_mem_of_foreignKey_eq_none hof hnone) hcurrent
      exact .inl ⟨hnull, mayBeNull_of_plan hf.plan hof hindex hnullable⟩
    | made _ hmade => exact .inr (hmade (hdeclared.wellTyped (List.mem_of_getElem? hfield)))

/-- All records of an output have the declared fields of their table in order. Values are of the
type of their field, and its domain admits them. A null only stands in a field that is not declared
otherwise and is in no key. -/
def Output.ConformsTo (out : Output) (s : Schema) : Prop :=
  ∃ m, s.compile = .ok (m, out.order) ∧ ∀ name records, (name, records) ∈ out.tables →
    ∃ declared t, s.table? name = some declared ∧ m.table? name = some t ∧
      ∀ r ∈ records, r.fields = declared.fields.map Field.name ∧
        r.values.length = r.fields.length ∧
        ∀ (i : Nat) f g v, declared.fields[i]? = some f → t.fields[i]? = some g →
          r.values[i]? = some v →
            (v = .null ∧ f.modifiers.notNull = false ∧ t.MayBeNull g) ∨
              (v ≠ .null ∧ v.HasType g.terminal ∧ g.domain.admits v = true)

/-- Every run that succeeds gives records that conform to the fields of their tables. -/
theorem output_conforms (h : Generation.run s o seed = .ok out) : out.ConformsTo s := by
  obtain ⟨run, done, hcomplete⟩ := exists_complete h
  refine ⟨run.model, hcomplete.compiled, fun name records hentry => ?_⟩
  obtain ⟨f, hf, rfl, rfl⟩ := hcomplete.exists_finished hentry
  have hof := hcomplete.planned f hf
  have hall := hcomplete.induction (p := fun f => ∀ r ∈ f.records, f.table.Conforms r)
    fun before f hbefore hf hnext => conforms_of_isNext hcomplete.model hbefore hf hnext
  obtain ⟨declared, hmem, hdeclared⟩ := hcomplete.model.mem_tables hof.mem
  have hlookup : s.table? f.table.name = some declared := by
    rw [hdeclared.name]
    exact find?_of_mem_of_nodup hcomplete.model.nodup hmem
  refine ⟨declared, f.table, hlookup, hof.table?_name, fun r hr => ?_⟩
  have hr := hall f hf r hr
  refine ⟨hr.fields.trans hdeclared.fieldNames, ?_, fun i field g v hfield hg hv => ?_⟩
  · rw [hr.length, hr.fields, Model.Table.fieldNames, List.length_map]
  · rcases hr.values i g v hg hv with ⟨hnull, hmay⟩ | hfits
    · obtain ⟨field', hfield', hreviewed⟩ := hdeclared.getElem?_fields hg
      rw [hfield] at hfield'
      cases hfield'
      exact .inl ⟨hnull, hreviewed.nullable hmay.nullable, hmay⟩
    · exact .inr ⟨hfits.hasType.ne_null, hfits.hasType, by simp [Domain.admits, hfits.admitted]⟩

theorem output_conforms_family :
    ∃ out, Generation.run familySchema {} 2 = .ok out ∧ out.ConformsTo familySchema := by
  obtain ⟨out, hrun, -⟩ := exists_family_output
  exact ⟨out, hrun, output_conforms hrun⟩

end Generation

end Fixtures
