import Fixtures.Model.Analysis
import Fixtures.Proofs.Model.Field
import Fixtures.Proofs.Model.KeyReview
import Fixtures.Proofs.Model.Names
import Fixtures.Proofs.Outcome
import Fixtures.Proofs.Positions

namespace Fixtures

namespace Analysis

variable {resolve : Resolution} {known : SymbolTable} {s : Schema} {declared : Table}
  {t target : Model.Table} {k : ForeignKey}

theorem of_pairErrors {other : Table} {location : Option Location} {field remote : String}
    (h : pairErrors resolve declared other location field remote = []) :
    ∃ g, other.field? remote = some g ∧ ∀ f own its, declared.field? field = some f →
      resolve f.dataType = .ok own → resolve g.dataType = .ok its →
        own.terminal = its.terminal := by
  unfold pairErrors at h
  split at h
  · cases h
  · next g hg =>
    refine ⟨g, hg, fun f own its hf hown hits => ?_⟩
    simp only [hf, Option.map_some, hown, hits] at h
    split at h
    · next hsame => exact hsame
    · cases h

/-- A foreign key whose fields are paired with fields of a target table of the same types, which the
review takes to be a key. -/
structure Pairs (resolve : Resolution) (s : Schema) (declared : Table) (k : ForeignKey) : Prop where
  nodup : k.fields.Nodup
  target : ∃ other, s.table? k.targetTable = some other ∧
    k.targetFields.length = k.fields.length ∧
    ∀ pair ∈ k.fields.zip k.targetFields, ∃ location,
      pairErrors resolve declared other location pair.1 pair.2 = []
  covered : ∀ other, s.table? k.targetTable = some other → isKeyOf other k.targetFields = true

theorem pairs_of_errors {location : Option Location} (hlist : IsListable known declared k.fields)
    (htarget : targetErrors resolve s declared location k = []) : Pairs resolve s declared k := by
  unfold targetErrors at htarget
  split at htarget
  · cases htarget
  · next other hother =>
    split at htarget
    · cases htarget
    · next hlength =>
      split at htarget
      · next hpairs =>
        split at htarget
        · next hkey =>
          refine ⟨hlist.nodup, ⟨other, hother, by omega, fun pair hpair =>
            ⟨location, List.flatMap_eq_nil_iff.mp hpairs pair hpair⟩⟩, fun other' hother' => ?_⟩
          rw [hother] at hother'
          cases hother'
          exact hkey
        · cases htarget
      · next hpairs => exact absurd htarget hpairs

theorem pairs_of_reviewKeys (h : (reviewKeys resolve known s declared).errors = []) :
    ∀ k ∈ (reviewKeys resolve known s declared).foreignKeys, Pairs resolve s declared k := by
  refine reviewKeys_induction (p := fun keys _ =>
    ∀ k ∈ keys.foreignKeys, Pairs resolve s declared k) h (by simp) ?_
  intro keys done entry next hkeys _ hadds
  cases hadds with
  | primary => simpa using hkeys
  | unique => exact hkeys
  | foreign _ _ _ hlist htarget =>
    intro k hk
    rcases List.mem_append.mp hk with hk | hk
    · exact hkeys k hk
    · rw [List.mem_singleton.mp hk]
      exact pairs_of_errors hlist htarget
  | other => exact hkeys

/-- A table with the keys that a review without errors finds. -/
structure KeyReview.IsOf (keys : KeyReview) (t : Model.Table) : Prop where
  errors : keys.errors = []
  primaryKey : t.primaryKey = keys.primaryKey
  uniqueKeys : t.uniqueKeys = keys.uniqueKeys

structure IsTableOf (resolve : Resolution) (s : Schema) (declared : Table) (t : Model.Table) :
    Prop where
  name : t.name = declared.name
  nodup : (declared.fields.map Field.name).Nodup
  fields : ∃ review : Field → Option Model.Field,
    declared.fields.map review = t.fields.map some ∧
      ∀ f g, review f = some g → IsReviewed resolve f g
  keys : ∀ k ∈ t.foreignKeys, Pairs resolve s declared k
  reviewed : ∃ known, (reviewKeys resolve known s declared).IsOf t

theorem isReviewed_withKey {f : Field} {g : Model.Field} (h : IsReviewed resolve f g)
    (key : Option Model.Key) : IsReviewed resolve f (withKey key g) := by
  unfold withKey
  split
  · exact ⟨h.name, by simp, h.resolved, h.wellTyped.domain, h.wellTyped.default⟩
  · exact h

/-- A table in which the review finds nothing wrong, and all that it finds. -/
structure IsAccepted (resolve : Resolution) (known : SymbolTable) (s : Schema) (declared : Table)
    (t : Model.Table) : Prop where
  fields : ∀ f ∈ declared.fields, (reviewField resolve declared f).2 = []
  keys : (reviewKeys resolve known s declared).errors = []
  checks : ∀ c ∈ reviewChecks declared, c.2 = []
  table : t =
    { name := declared.name
      fields := (declared.fields.filterMap fun f => (reviewField resolve declared f).1).map
        (withKey (reviewKeys resolve known s declared).primaryKey)
      primaryKey := (reviewKeys resolve known s declared).primaryKey
      uniqueKeys := (reviewKeys resolve known s declared).uniqueKeys
      foreignKeys := (reviewKeys resolve known s declared).foreignKeys
      checks := (reviewChecks declared).filterMap Prod.fst
      directive := (reviewDirective declared).1
      location := declared.location }

theorem isAccepted_of_reviewTable (hnodup : (declared.fields.map Field.name).Nodup)
    (h : (reviewTable resolve known s declared).1 = some t) :
    IsAccepted resolve known s declared t := by
  unfold reviewTable at h
  simp only [firstOfEach_nil_of_nodup hnodup] at h
  split at h
  · next hnone =>
    simp only [List.isEmpty_iff, List.append_eq_nil_iff, List.flatMap_eq_nil_iff] at hnone
    obtain ⟨⟨⟨hfields, hkeys⟩, hchecks⟩, -⟩ := hnone
    cases h
    exact ⟨fun f hf => hfields _ (List.mem_map_of_mem hf), hkeys, hchecks, by
      rw [List.filterMap_map]; rfl⟩
  · cases h

theorem IsAccepted.map_fields (h : IsAccepted resolve known s declared t) :
    (declared.fields.map fun f =>
      (reviewField resolve declared f).1.map (withKey t.primaryKey)) = t.fields.map some := by
  have hsome : ∀ f ∈ declared.fields, ∃ g, (reviewField resolve declared f).1 = some g :=
    fun f hf => reviewField_isSome_of_nil (h.fields f hf)
  have hmap := congrArg (List.map (Option.map (withKey t.primaryKey))) (map_some_filterMap hsome)
  rw [h.table] at hmap ⊢
  simpa [Function.comp_def] using hmap.symm

theorem isTableOf_of_reviewTable (hnodup : (declared.fields.map Field.name).Nodup)
    (h : (reviewTable resolve known s declared).1 = some t) : IsTableOf resolve s declared t := by
  have haccepted := isAccepted_of_reviewTable hnodup h
  refine ⟨by rw [haccepted.table], hnodup, ⟨_, haccepted.map_fields, ?_⟩, ?_, known,
    haccepted.keys, by rw [haccepted.table], by rw [haccepted.table]⟩
  · intro f g hg
    obtain ⟨g', hg', rfl⟩ := Option.map_eq_some_iff.mp hg
    exact isReviewed_withKey (isReviewed_of_reviewField hg') t.primaryKey
  · rw [haccepted.table]
    exact pairs_of_reviewKeys haccepted.keys

theorem reviewTable_isSome_of_nil (h : (reviewTable resolve known s declared).2 = []) :
    ∃ t, (reviewTable resolve known s declared).1 = some t := by
  unfold reviewTable at h ⊢
  simp only at h ⊢
  split
  · exact ⟨_, rfl⟩
  · next hsome =>
    rw [if_neg hsome] at h
    exact absurd (List.isEmpty_iff.mpr h) hsome

end Analysis

open Analysis

def Schema.resolution (s : Schema) : Resolution :=
  fun t => ((registry s).1.resolve t).1

/-- What the analysis of a schema keeps of its declarations. -/
structure Model.IsOf (s : Schema) (m : Model) : Prop where
  nodup : (s.tables.map Fixtures.Table.name).Nodup
  tables : ∃ review : Fixtures.Table → Option Model.Table,
    s.tables.map review = m.tables.map some ∧
      ∀ declared ∈ s.tables, ∀ t, review declared = some t →
        IsTableOf s.resolution s declared t

/-- A schema in which the analysis finds nothing wrong, with a review of each table for its
model. -/
structure Model.Accepts (s : Schema) (m : Model) : Prop where
  types : (registry s).2 = []
  symbols : (symbols s).2 = []
  tables : (s.tables.map fun t => (reviewTable s.resolution (Analysis.symbols s).1 s t).1) =
    m.tables.map some

theorem Model.accepts_of_ofSchema {s : Schema} {m : Model} (h : Model.ofSchema s = .ok m) :
    m.Accepts s := by
  unfold Model.ofSchema at h
  simp only at h
  split at h
  · next hnone =>
    simp only [List.isEmpty_iff, List.append_eq_nil_iff, List.flatMap_eq_nil_iff] at hnone
    obtain ⟨⟨⟨htypes, hsymbols⟩, -⟩, hreviewed⟩ := hnone
    simp only [firstOfEach_nil_of_nodup (nodup_of_symbols hsymbols).1] at h hreviewed
    cases h
    have hsome : ∀ t ∈ s.tables,
        ∃ t', (reviewTable s.resolution (Analysis.symbols s).1 s t).1 = some t' :=
      fun t ht => reviewTable_isSome_of_nil (hreviewed _ (List.mem_map_of_mem ht))
    refine ⟨htypes, hsymbols, ?_⟩
    rw [← map_some_filterMap hsome, List.filterMap_map]
    rfl
  · cases h

theorem Model.isOf_of_ofSchema {s : Schema} {m : Model} (h : Model.ofSchema s = .ok m) :
    m.IsOf s := by
  have haccepts := accepts_of_ofSchema h
  obtain ⟨hnodup, hfields⟩ := nodup_of_symbols haccepts.symbols
  exact ⟨hnodup, _, haccepts.tables, fun declared hdeclared t ht =>
    isTableOf_of_reviewTable (hfields declared hdeclared) ht⟩

end Fixtures
