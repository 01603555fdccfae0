import Fixtures.Proofs.Generation.Conformity

namespace Fixtures

def Record.Agree (a b : Record) (fields : List String) : Prop :=
  ∀ x ∈ fields, (a.get? x).map Value.key = (b.get? x).map Value.key

namespace Generation

variable {s : Schema} {o : Options} {seed : UInt64} {out : Output} {m : Model} {run : Run}
  {done : List Finished} {f : Finished} {a b r : Record} {k : Model.Key} {plan : KeyPlan}

namespace TableJob

variable {job : TableJob} {rows : List SampledRow}

theorem RowByRow.checks (h : job.RowByRow rows) : ∀ row ∈ rows, ∀ c ∈ job.table.checks,
    c.expression.holds (job.lookup row.values) ≠ some false := by
  induction h with
  | start => simp
  | next _ hs _ ih =>
    intro row hrow
    rcases List.mem_append.mp hrow with hrow | hrow
    · exact ih row hrow
    · rw [List.mem_singleton.mp hrow]
      exact hs.acceptable.checks

/-- A row shares no key with the rows before it, which is how the last attempt at it was
accepted. -/
theorem RowByRow.pairwise (h : job.RowByRow rows) :
    rows.Pairwise fun row later => ¬ ShareKey job.plan.keys row.values later.values := by
  induction h with
  | start => exact .nil
  | next _ hs _ ih =>
    rw [List.pairwise_append]
    refine ⟨ih, List.pairwise_singleton .., fun row hrow later hlater => ?_⟩
    rw [List.mem_singleton.mp hlater]
    exact hs.acceptable.keys row hrow

end TableJob

theorem pairwise_records {p : List Value → List Value → Prop}
    (h : f.rows.Pairwise fun row later => p row.values later.values) :
    f.records.Pairwise fun a b => p a.values b.values := by
  rw [List.pairwise_iff_getElem] at h ⊢
  intro i j hi hj hij
  simp only [Finished.records, List.length_mapIdx] at hi hj
  simpa [Finished.records] using h i j hi hj hij

theorem holds_of_isNext (hf : f.IsOf m) (hnext : run.IsNext done f) (hr : r ∈ f.records) :
    ∀ c ∈ f.table.checks, c.expression.holds r.get? ≠ some false := by
  intro c hc
  obtain ⟨row, hrow, hvalues, hnames⟩ := Finished.mem_records hr
  have hlookup : r.get? = (run.jobAfter done f).lookup row.values := by
    funext field
    rw [hf.get?_record hnames, hvalues]
    rfl
  rw [hlookup]
  exact hnext.rows.checks row hrow c hc

theorem map_get?_of_positions {names : List String} {positions : List Nat} (hf : f.IsOf m)
    (hr : f.table.Conforms r) (h : TablePlan.positions f.table names = .ok positions) :
    names.map r.get? = positions.map fun i => r.values[i]? := by
  refine List.ext_getElem? fun l => ?_
  rw [List.getElem?_map, List.getElem?_map]
  cases hi : positions[l]? with
  | none =>
    rw [List.getElem?_eq_none_iff, length_of_mapM h, ← List.getElem?_eq_none_iff] at hi
    rw [hi]
    rfl
  | some i =>
    obtain ⟨name, hname, hindex⟩ := getElem?_of_positions h hi
    have hnames := hr.fields.trans hf.plan.fieldNames.symm
    rw [hname, Option.map_some, Option.map_some, hf.get?_record hnames, hindex, Option.bind_some]

/-- A conforming record has a value in each field of a key, and none of them is null. -/
theorem exists_member (hr : f.table.Conforms r) (hk : k ∈ f.table.keys)
    (hplan : plan.IsOf f.table k) {i : Nat} (hi : i ∈ plan.fields) :
    ∃ v, v ≠ .null ∧ r.values[i]? = some v := by
  obtain ⟨l, hl⟩ := List.getElem?_of_mem hi
  obtain ⟨name, hname, hindex⟩ := getElem?_of_positions hplan.fields hl
  obtain ⟨field, hfield, rfl, -⟩ := Model.Table.fieldIndex?_eq_some hindex
  obtain ⟨v, hv⟩ := exists_getElem?_of_length hr.length hfield
  rcases hr.values i field v hfield hv with ⟨-, hmay⟩ | hfits
  · exact absurd (List.mem_of_getElem? hname) (hmay.keys k hk)
  · exact ⟨v, hfits.hasType.ne_null, hv⟩

theorem exists_texts (hf : f.IsOf m) (hr : f.table.Conforms r) (hk : k ∈ f.table.keys)
    (hplan : plan.IsOf f.table k) : ∃ texts : List String,
      k.fields.map (fun x => (r.get? x).map Value.key) = texts.map some ∧
        KeyColumn.keyOf? plan.fields r.values = some (Text.joined "|" texts) := by
  have hsome : ∀ i ∈ plan.fields, ∃ text, r.values[i]?.map Value.key = some text := by
    intro i hi
    obtain ⟨v, -, hv⟩ := exists_member hr hk hplan hi
    exact ⟨v.key, by rw [hv, Option.map_some]⟩
  have htexts := map_some_filterMap hsome
  refine ⟨_, ?_, KeyColumn.keyOf?_eq_some htexts.symm fun i hi => ?_⟩
  · have hget := congrArg (List.map (Option.map Value.key))
      (map_get?_of_positions hf hr hplan.fields)
    rw [List.map_map, List.map_map] at hget
    exact hget.trans htexts.symm
  · obtain ⟨v, hne, hv⟩ := exists_member hr hk hplan hi
    rw [hv]
    simpa using hne

theorem shareKey_of_agree (hf : f.IsOf m) (ha : f.table.Conforms a) (hb : f.table.Conforms b)
    (hk : k ∈ f.table.keys) (h : a.Agree b k.fields) :
    ShareKey f.plan.keys a.values b.values := by
  obtain ⟨plan, hmem, hplan⟩ := hf.plan.keys k hk
  obtain ⟨texts, hatexts, hakey⟩ := exists_texts hf ha hk hplan
  obtain ⟨texts', hbtexts, hbkey⟩ := exists_texts hf hb hk hplan
  have hsame : texts.map some = texts'.map some := by
    rw [← hatexts, ← hbtexts]
    exact List.map_congr_left h
  have heq : texts = texts' := (List.map_inj_right fun _ _ => Option.some.inj).mp hsame
  exact ⟨plan, hmem, _, hakey, heq ▸ hbkey⟩

theorem Complete.conforms (h : Complete s out run done) :
    ∀ f ∈ done, ∀ r ∈ f.records, f.table.Conforms r :=
  h.induction fun _ _ hbefore hf hnext => conforms_of_isNext h.model hbefore hf hnext

/-- In each table of an output no check is false of a record; it is true or unknown. No two records
of the table agree in all fields of a primary or unique key. -/
def Output.KeepsConstraints (out : Output) (s : Schema) : Prop :=
  ∃ m, s.compile = .ok (m, out.order) ∧ ∀ name records, (name, records) ∈ out.tables →
    ∃ t, m.table? name = some t ∧
      (∀ r ∈ records, ∀ c ∈ t.checks, c.expression.holds r.get? ≠ some false) ∧
      ∀ k ∈ t.keys, records.Pairwise fun a b => ¬ a.Agree b k.fields

theorem keeps_constraints (h : Generation.run s o seed = .ok out) : out.KeepsConstraints s := by
  obtain ⟨run, done, hcomplete⟩ := exists_complete h
  refine ⟨run.model, hcomplete.compiled, fun name records hentry => ?_⟩
  obtain ⟨f, hmem, rfl, rfl⟩ := hcomplete.exists_finished hentry
  have hf := hcomplete.planned f hmem
  have hconforms := hcomplete.conforms f hmem
  obtain ⟨before, after, rfl⟩ := List.append_of_mem hmem
  have hnext := hcomplete.finished.isNext
  refine ⟨f.table, hf.table?_name, fun r hr => holds_of_isNext hf hnext hr, fun k hk => ?_⟩
  have hrows : f.records.Pairwise fun a b => ¬ ShareKey f.plan.keys a.values b.values :=
    pairwise_records (p := fun a b => ¬ ShareKey f.plan.keys a b) hnext.rows.pairwise
  refine hrows.imp_of_mem fun ha hb hshare hagree => ?_
  exact hshare (shareKey_of_agree hf (hconforms _ ha) (hconforms _ hb) hk hagree)

/-- Three different pairs of truth values, which are all there are with one of them true. -/
def flagSchema : Schema :=
  let flag (name : String) : Field := { name, dataType := .primitive .boolean }
  { name := "flags"
    tables := [{
      name := "pair"
      fields := [flag "a", flag "b"]
      constraints := [.unique none ["a", "b"], .check none "a OR b"]
      directive := some { count := some 3 } }] }

theorem keeps_constraints_flags :
    ∃ out, Generation.run flagSchema {} 2 = .ok out ∧ out.report.retriesTotal = 4 ∧
      out.KeepsConstraints flagSchema := by
  have h : (Generation.run flagSchema {} 2).toOption.map (fun out => out.report.retriesTotal) =
      some 4 := by
    decide +kernel
  obtain ⟨out, hout, hretries⟩ := Option.map_eq_some_iff.mp h
  have hrun := toOption_eq_some.mp hout
  exact ⟨out, hrun, hretries, keeps_constraints hrun⟩

end Generation

end Fixtures
