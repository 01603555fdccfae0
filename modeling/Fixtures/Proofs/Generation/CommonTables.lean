import Fixtures.Proofs.Generation.CompleteRun
import Fixtures.Proofs.Model.Acceptance

namespace Fixtures

def Table.References (t : Table) (name : String) : Prop :=
  ∃ owner k, (owner, Constraint.foreignKey k) ∈ t.allConstraints ∧ k.targetTable = name

/-- Tables of a schema that stand among others in any order, and reference none of the others. -/
def Schema.IsPart (s : Schema) (common : List Table) : Prop :=
  ∃ others, s.tables.Perm (common ++ others) ∧
    ∀ t ∈ common, ∀ other ∈ others, ¬ t.References other.name

/-- Schemas with the same types and some of their tables in common. -/
structure Schema.Share (s s' : Schema) (common : List Table) : Prop where
  types : s.types = s'.types
  imports : s.imports = s'.imports
  part : s.IsPart common
  part' : s'.IsPart common

def Generation.Output.records? (out : Generation.Output) (table : String) : Option (List Record) :=
  (out.tables.find? fun entry => entry.1 = table).map Prod.snd

open Analysis

namespace Schema

variable {s s' : Schema} {m m' : Model} {common : List Table} {t : Table}

theorem IsPart.subset (h : s.IsPart common) (ht : t ∈ common) : t ∈ s.tables := by
  obtain ⟨others, hperm, -⟩ := h
  exact hperm.symm.subset (List.mem_append_left _ ht)

theorem IsPart.exists_of_references (h : s.IsPart common) (ht : t ∈ common) {name : String}
    (hrefers : t.References name) (hname : name ∈ s.tables.map Table.name) :
    name ∈ common.map Table.name := by
  obtain ⟨others, hperm, hnone⟩ := h
  obtain ⟨u, hu, rfl⟩ := List.mem_map.mp hname
  rcases List.mem_append.mp (hperm.subset hu) with hu | hu
  · exact List.mem_map_of_mem hu
  · exact absurd hrefers (hnone t ht u hu)

theorem Share.resolution_eq (h : s.Share s' common) : s.resolution = s'.resolution := by
  unfold resolution Analysis.registry typeDecls
  rw [h.types, h.imports]

theorem Share.exists_table (h : s.Share s' common) (hm : Model.ofSchema s = .ok m)
    (hm' : Model.ofSchema s' = .ok m') (ht : t ∈ common) :
    ∃ t' ∈ m.tables, t' ∈ m'.tables ∧ t'.name = t.name ∧
      ∀ k ∈ t'.foreignKeys, k.targetTable ∈ common.map Table.name := by
  obtain ⟨t₁, ht₁, haccepted⟩ := exists_accepted hm (h.part.subset ht)
  obtain ⟨t₂, ht₂, haccepted'⟩ := exists_accepted hm' (h.part'.subset ht)
  rw [← h.resolution_eq] at haccepted'
  obtain rfl : t₁ = t₂ := haccepted.unique haccepted'
  refine ⟨t₁, ht₁, ht₂, by rw [haccepted.table], fun k hk => ?_⟩
  have hof := Model.isOf_of_ofSchema hm
  obtain ⟨target, htarget, -⟩ := hof.refers ht₁ hk
  refine h.part.exists_of_references ht ?_ ?_
  · rw [haccepted.foreignKeys] at hk
    obtain ⟨⟨owner, c⟩, hentry, hk⟩ := List.mem_filterMap.mp hk
    cases c with
    | foreignKey key =>
      cases hk
      exact ⟨owner, key, hentry, rfl⟩
    | _ => cases hk
  · rw [← hof.tableNames]
    have hname : target.name = k.targetTable := by simpa using List.find?_some htarget
    exact hname ▸ List.mem_map_of_mem (List.mem_of_find?_eq_some htarget)

end Schema

namespace Generation

variable {s s' : Schema} {o : Options} {seed : UInt64} {out out' : Output} {run run' : Run}
  {before before' after after' done done' : List Finished} {f f' : Finished} {common : List Table}

/-- A table comes out the same after other tables if the sets that its foreign keys point to are the
same. -/
theorem Run.IsNext.rows_eq (h : run.IsNext before f) (h' : run'.IsNext before' f')
    (htable : f.table = f'.table) (hplan : f.plan = f'.plan) (hoptions : run.options = run'.options)
    (hseed : run.seed = run'.seed)
    (hsets : ∀ k ∈ f.plan.foreignKeys,
      (run'.referencesAfter before').set? k.targetTable k.targetFields =
        (run.referencesAfter before).set? k.targetTable k.targetFields) : f.rows = f'.rows := by
  have hjob : run'.jobAfter before' f' = { run.jobAfter before f with
      references := run'.referencesAfter before', options := run.options } := by
    unfold Run.jobAfter Run.job
    rw [htable, hplan, hoptions, hseed]
  have hagrees : (run.jobAfter before f).Agrees (run'.jobAfter before' f') := by
    rw [hjob]
    exact TableJob.DrawsFrom.agrees ⟨hsets, rfl, rfl, rfl⟩
  refine (hagrees.rowByRow h.rows).unique h'.rows ?_
  rw [h.count, h'.count, hplan]

/-- The sets that the foreign keys of a table point to are the same after other tables if those
tables are the same that they have in common. -/
theorem Complete.set?_eq (h : Complete s out run done) (h' : Complete s' out' run' done')
    (hp : Planned o seed out run done) (hp' : Planned o seed out' run' done')
    (hdone : done = before ++ f :: after) (hdone' : done' = before' ++ f' :: after')
    (hplan : f.plan = f'.plan)
    (htargets : ∀ k ∈ f.table.foreignKeys, k.targetTable ∈ common.map Table.name)
    (hbefore : ∀ g ∈ before, ∀ g' ∈ done', g'.table.name = g.table.name →
      g.table.name ∈ common.map Table.name → g = g') :
    ∀ k ∈ f.plan.foreignKeys,
      (run'.referencesAfter before').set? k.targetTable k.targetFields =
        (run.referencesAfter before).set? k.targetTable k.targetFields := by
  intro k hk
  obtain ⟨g, hg, hgname, hset⟩ := h.exists_parent_set hp hdone hk
  obtain ⟨g', hg', hgname', hset'⟩ := h'.exists_parent_set hp' hdone' (hplan ▸ hk)
  obtain ⟨key, hkey, hof⟩ := (h.planned f (by simp [hdone])).plan.exists_foreignKey hk
  have hcommon : g.table.name ∈ common.map Table.name := by
    rw [hgname, hof.targetTable]
    exact htargets key hkey
  have hsame : g = g' :=
    hbefore g hg g' (by simp [hdone', hg']) (hgname'.trans hgname.symm) hcommon
  rw [hset, hset', hsame]

theorem Complete.eq_of_share (h : Complete s out run done) (h' : Complete s' out' run' done')
    (hp : Planned o seed out run done) (hp' : Planned o seed out' run' done')
    (hshare : s.Share s' common) :
    ∀ f ∈ done, ∀ f' ∈ done', f'.table.name = f.table.name →
      f.table.name ∈ common.map Table.name → f = f' := by
  refine forall_mem_of_before fun before f after hdone hbefore f' hf' hname hcommon => ?_
  have hf : f ∈ done := by simp [hdone]
  obtain ⟨before', after', hdone'⟩ := List.append_of_mem hf'
  obtain ⟨t, ht, htname⟩ := List.mem_map.mp hcommon
  obtain ⟨t', hmem, hmem', hsame, htargets⟩ := hshare.exists_table h.ofSchema h'.ofSchema ht
  have htable : f.table = t' := h.table_eq_of_name hf hmem (hsame.trans htname)
  have htable' : f'.table = t' :=
    h'.table_eq_of_name hf' hmem' ((hsame.trans htname).trans hname.symm)
  have hplan : f.plan = f'.plan := by
    have hof := h.ofTable hp hf
    have hof' := h'.ofTable hp' hf'
    rw [htable] at hof
    rw [htable', hof] at hof'
    exact Except.ok.inj hof'
  have hsets := h.set?_eq h' hp hp' hdone hdone' hplan (htable ▸ htargets) hbefore
  have hnext : run.IsNext before f := (hdone ▸ h.finished).isNext
  have hnext' : run'.IsNext before' f' := (hdone' ▸ h'.finished).isNext
  have hrows := hnext.rows_eq hnext' (htable.trans htable'.symm) hplan
    (hp.options.trans hp'.options.symm) (hp.seed.trans hp'.seed.symm) hsets
  obtain ⟨table, plan, rows⟩ := f
  obtain ⟨table', plan', rows'⟩ := f'
  simp only at htable htable' hplan hrows
  rw [htable, htable', hplan, hrows]

theorem Complete.records?_eq (h : Complete s out run done) (hp : Planned o seed out run done)
    (hf : f ∈ done) : out.records? f.table.name = some f.records := by
  have hnames : out.tables.map Prod.fst = done.map fun g => g.table.name := by
    rw [h.collected, List.map_map]
    exact List.map_congr_left fun g hg => (h.planned g hg).plan.name
  have hnodup := h.nodup_names hp
  rw [← hnames] at hnodup
  have hfound := find?_of_mem_of_nodup hnodup (h.mem_tables hf)
  rw [Output.records?, hfound, Option.map_some]

/-- Schemas with tables in common that reference no others have the same records of them, in
whatever order tables are declared and generated, and whichever keys are kept. -/
theorem common_records_agree (hshare : s.Share s' common)
    (hrun : Generation.run s o seed = .ok out) (hrun' : Generation.run s' o seed = .ok out') :
    ∀ t ∈ common, ∃ records, out.records? t.name = some records ∧
      out'.records? t.name = some records := by
  obtain ⟨run, done, h, hp⟩ := exists_planned hrun
  obtain ⟨run', done', h', hp'⟩ := exists_planned hrun'
  intro t ht
  obtain ⟨t', hmem, hmem', hname, -⟩ := hshare.exists_table h.ofSchema h'.ofSchema ht
  obtain ⟨f, hf, rfl⟩ := h.exists_finished_of_table hp hmem
  obtain ⟨f', hf', htable⟩ := h'.exists_finished_of_table hp' hmem'
  obtain rfl : f = f' := h.eq_of_share h' hp hp' hshare f hf f' hf' (by rw [htable])
    (hname ▸ List.mem_map_of_mem ht)
  rw [← hname]
  exact ⟨f.records, h.records?_eq hp hf, h'.records?_eq hp' hf'⟩

/-- Houses with two keys, tenants that point to one of them and letters that point to the other. -/
def house : Table :=
  { name := "house"
    fields := [
      { name := "id", dataType := .primitive .integer, constraints := [.primaryKey none []] },
      { name := "number", dataType := .primitive .integer, constraints := [.unique none []] }]
    directive := some { count := some 2 } }

def tenant : Table :=
  { name := "tenant"
    fields := [{
      name := "house"
      dataType := .primitive .integer
      constraints := [.unique none [], .foreignKey ⟨none, [], "house", ["id"], none⟩] }]
    directive := some { count := some 2 } }

def letter : Table :=
  { name := "letter"
    fields := [{
      name := "to"
      dataType := .primitive .integer
      constraints := [.foreignKey ⟨none, [], "house", ["number"], none⟩] }]
    directive := some { count := some 1 } }

def streetSchema : Schema :=
  { name := "street", tables := [house, tenant] }

def postSchema : Schema :=
  { name := "post", tables := [letter, tenant, house] }

theorem share_street : streetSchema.Share postSchema [house, tenant] := by
  refine ⟨rfl, rfl, ⟨[], .refl _, by simp⟩, [letter], List.reverse_perm [house, tenant, letter], ?_⟩
  rintro t ht other hother ⟨owner, k, hk, hname⟩
  rw [List.mem_singleton.mp hother] at hname
  rcases List.mem_cons.mp ht with rfl | ht
  · simp [house, Table.allConstraints] at hk
  · rw [List.mem_singleton.mp ht] at hk
    simp only [tenant, Table.allConstraints, List.map_nil, List.nil_append, List.flatMap_singleton,
      List.map_cons, List.mem_cons, Prod.mk.injEq, reduceCtorEq, and_false, false_or,
      Constraint.foreignKey.injEq, List.not_mem_nil, or_false] at hk
    rw [hk.2] at hname
    simp [letter] at hname

theorem exists_street_outputs : ∃ out out', Generation.run streetSchema {} 1 = .ok out ∧
    Generation.run postSchema {} 1 = .ok out' ∧ out.order = ["house", "tenant"] ∧
      out'.order = ["house", "letter", "tenant"] ∧ out.report.retriesTotal = 1 := by
  have h : (Generation.run streetSchema {} 1).toOption.map
      (fun out => (out.order, out.report.retriesTotal)) = some (["house", "tenant"], 1) := by
    decide +kernel
  have h' : (Generation.run postSchema {} 1).toOption.map Output.order =
      some ["house", "letter", "tenant"] := by
    decide +kernel
  obtain ⟨out, hout, hfound⟩ := Option.map_eq_some_iff.mp h
  obtain ⟨out', hout', hfound'⟩ := Option.map_eq_some_iff.mp h'
  obtain ⟨horder, hretries⟩ := Prod.mk.inj hfound
  exact ⟨out, out', toOption_eq_some.mp hout, toOption_eq_some.mp hout', horder, hfound', hretries⟩

theorem common_records_agree_street : ∃ out out', Generation.run streetSchema {} 1 = .ok out ∧
    Generation.run postSchema {} 1 = .ok out' ∧ out.order = ["house", "tenant"] ∧
      out'.order = ["house", "letter", "tenant"] ∧ out.report.retriesTotal = 1 ∧
      ∀ t ∈ [house, tenant], ∃ records, out.records? t.name = some records ∧
        out'.records? t.name = some records := by
  obtain ⟨out, out', hout, hout', horder, horder', hretries⟩ := exists_street_outputs
  exact ⟨out, out', hout, hout', horder, horder', hretries,
    common_records_agree share_street hout hout'⟩

end Generation

end Fixtures
