import Fixtures.Proofs.Model.Acceptance
import Fixtures.Proofs.Model.Names
import Fixtures.Proofs.Typing.Answers

namespace Fixtures

open Analysis

/-- What a type of a schema comes down to: to itself, or to the end of its chain of bases with the
constraints of the whole chain. -/
inductive Schema.TypeComesTo (s : Schema) : DataType → ResolvedType → Prop
  | primitive (p : Primitive) : s.TypeComesTo (.primitive p) { terminal := .primitive p }
  | array (item : Primitive) (length : Option Nat) :
    s.TypeComesTo (.array item length) { terminal := .array item length }
  | custom {name : String} {r : ResolvedType} :
    ({ definitions := s.typeDecls } : TypeRegistry).ComesTo name (.ok r) →
      s.TypeComesTo (.custom name) r

namespace Model

structure Field.Matches (s : Schema) (t : Table) (declared : Fixtures.Field) (f : Field) :
    Prop where
  name : f.name = declared.name
  nullable : f.nullable = true ↔
    declared.modifiers.notNull = false ∧ ∀ k, t.primaryKey = some k → f.name ∉ k.fields
  type : ∃ r, s.TypeComesTo declared.dataType r ∧ f.terminal = r.terminal ∧
    f.constraints = declared.constraints.filter Constraint.isOnValue ++ r.constraints
  domain : Domain.build f.terminal f.constraints = .ok f.domain
  default : ∀ v, f.default = some v →
    ∃ p, f.terminal = .primitive p ∧ v.kind? = some p ∧ f.domain.admits v = true

/-- A foreign key that pairs fields of a table with fields of its target of the same types. -/
structure Table.Pairs (m : Model) (t : Table) (k : ForeignKey) : Prop where
  length : k.targetFields.length = k.fields.length
  target : ∃ target, m.table? k.targetTable = some target ∧
    ∀ (i : Nat) x y, k.fields[i]? = some x → k.targetFields[i]? = some y →
      ∃ f g, t.field? x = some f ∧ target.field? y = some g ∧ f.terminal = g.terminal

/-- A table as its declaration has it, whose keys and checks name fields of its own. -/
structure Table.Matches (s : Schema) (m : Model) (declared : Fixtures.Table) (t : Table) :
    Prop where
  fieldNames : t.fieldNames = declared.fields.map Fixtures.Field.name
  nodup : t.fieldNames.Nodup
  fields : ∀ (i : Nat) f g, declared.fields[i]? = some f → t.fields[i]? = some g → g.Matches s t f
  keys : ∀ k ∈ t.keys, ∀ x ∈ k.fields, ∃ f, t.field? x = some f
  foreignKeys : ∀ k ∈ t.foreignKeys, t.Pairs m k ∧ ∀ x ∈ k.fields, ∃ f, t.field? x = some f
  checks : ∀ c ∈ t.checks, ∀ x ∈ c.expression.mentions, ∃ f, t.field? x = some f

structure WellFormed (m : Model) (s : Schema) : Prop where
  tableNames : m.tableNames = s.tables.map Fixtures.Table.name
  nodup : m.tableNames.Nodup
  tables : ∀ (i : Nat) declared t, s.tables[i]? = some declared → m.tables[i]? = some t →
    t.Matches s m declared

end Model

namespace Analysis

variable {resolve : Resolution} {known : SymbolTable} {s : Schema} {m : Model} {declared : Table}
  {t : Model.Table} {f : Field} {g : Model.Field} {x : String}

theorem foldl_defineType {ds : List TypeDecl} {r : Reviewed TypeRegistry}
    (h : (ds.foldl defineType r).2 = []) :
    r.2 = [] ∧ (ds.foldl defineType r).1 = { r.1 with definitions := r.1.definitions ++ ds } := by
  induction ds generalizing r with
  | nil => exact ⟨h, by simp⟩
  | cons d ds ih =>
    rw [List.foldl_cons] at h ⊢
    obtain ⟨herrors, hrest⟩ := ih h
    rw [hrest]
    unfold defineType at herrors ⊢
    cases hdefine : r.1.define d with
    | error e => simp [hdefine] at herrors
    | ok next =>
      simp only [hdefine] at herrors ⊢
      unfold TypeRegistry.define at hdefine
      split at hdefine
      · cases hdefine
      · cases hdefine
        exact ⟨herrors, by simp⟩

theorem typeComesTo_of_resolution {type : DataType} {r : ResolvedType} (hnil : (registry s).2 = [])
    (h : s.resolution type = .ok r) : s.TypeComesTo type r := by
  have hregistry : (registry s).1 = { definitions := s.typeDecls } := (foldl_defineType hnil).2
  rw [Schema.resolution, hregistry] at h
  cases type with
  | primitive p =>
    cases h
    exact .primitive p
  | array item length =>
    cases h
    exact .array item length
  | custom name =>
    have hcomes := TypeRegistry.comesTo_resolveName (r := { definitions := s.typeDecls }) nofun name
    exact .custom (h ▸ hcomes)

theorem withKey_nullable (key : Option Model.Key) (g : Model.Field) :
    (withKey key g).nullable = true ↔
      g.nullable = true ∧ ∀ k, key = some k → g.name ∉ k.fields := by
  cases key with
  | none => simp [withKey]
  | some k => by_cases hk : g.name ∈ k.fields <;> simp [withKey, hk]

theorem exists_withKey_eq (key : Option Model.Key) (g : Model.Field) :
    ∃ nullable, withKey key g = { g with nullable } := by
  unfold withKey
  split
  · exact ⟨false, rfl⟩
  · exact ⟨g.nullable, rfl⟩

theorem matches_withKey (hnil : (registry s).2 = []) (h : IsFieldOf s.resolution [] f g) :
    (withKey t.primaryKey g).Matches s t f := by
  obtain ⟨r, hr, hterminal, hconstraints⟩ := h.type
  have hnullable := withKey_nullable t.primaryKey g
  obtain ⟨nullable, hkey⟩ := exists_withKey_eq t.primaryKey g
  rw [hkey] at hnullable ⊢
  refine ⟨h.name, ?_, ⟨r, typeComesTo_of_resolution hnil hr, hterminal, hconstraints⟩, h.domain,
    fun v hv => ?_⟩
  · rw [hnullable, h.nullable, Bool.not_eq_true']
  · obtain ⟨p, l, -, hnull, hp, hl, hadmits⟩ := h.default v hv
    exact ⟨p, hp, Value.kind?_of_ofLiteral? hl hnull, hadmits rfl⟩

theorem IsAccepted.matches_field (h : IsAccepted s.resolution known s declared t)
    (hnil : (registry s).2 = []) {i : Nat} (hf : declared.fields[i]? = some f)
    (hg : t.fields[i]? = some g) : g.Matches s t f := by
  have hi := congrArg (·[i]?) h.map_fields
  simp only [List.getElem?_map, hf, hg, Option.map_some, Option.some.injEq,
    Option.map_eq_some_iff] at hi
  obtain ⟨g', hg', rfl⟩ := hi
  have hof := isFieldOf_of_reviewField hg'
  rw [h.fields f (List.mem_of_getElem? hf)] at hof
  exact matches_withKey hnil hof

theorem declared_of_reviewCheck {location : Option Location} {name : Option String}
    {source : String} {c : Model.Check}
    (h : (reviewCheck declared location name source).1 = some c) :
    ∀ x ∈ c.expression.mentions, ∃ f, declared.field? x = some f := by
  unfold reviewCheck at h
  split at h
  · cases h
  · next expression hparse =>
    simp only at h
    split at h
    · next hnone =>
      cases h
      intro x hx
      simp only [List.isEmpty_iff, List.map_eq_nil_iff, List.filter_eq_nil_iff] at hnone
      have hfound := hnone x (Text.mem_nameSet.mpr hx)
      exact Option.ne_none_iff_exists'.mp (by simpa using hfound)
    · cases h

theorem IsAccepted.declared_of_check (h : IsAccepted resolve known s declared t) {c : Model.Check}
    (hc : c ∈ t.checks) : ∀ x ∈ c.expression.mentions, ∃ f, declared.field? x = some f := by
  rw [h.table] at hc
  obtain ⟨review, hreview, hc⟩ := List.mem_filterMap.mp hc
  obtain ⟨⟨owner, constraint⟩, -, heq⟩ := List.mem_filterMap.mp hreview
  cases constraint with
  | check name source =>
    cases heq
    exact declared_of_reviewCheck hc
  | _ => cases heq

theorem exists_field?_iff : (∃ f, t.field? x = some f) ↔ x ∈ t.fieldNames := by
  rw [← Option.isSome_iff_exists]
  simp [Model.Table.field?, Model.Table.fieldNames]

theorem matches_of_isAccepted (hm : m.IsOf s) (haccepts : m.Accepts s) (ht : t ∈ m.tables)
    (hdeclared : declared ∈ s.tables) (hof : IsTableOf s.resolution s declared t)
    (h : IsAccepted s.resolution (symbols s).1 s declared t) : t.Matches s m declared := by
  have hkeys := areKnown_of_reviewKeys h.keys
  have hfound : ∀ x, ((symbols s).1.field? declared.name x).isSome → ∃ f, t.field? x = some f := by
    intro x hx
    rw [exists_field?_iff, hof.fieldNames]
    exact (isSome_field?_symbols haccepts.symbols hdeclared).mp hx
  refine ⟨hof.fieldNames, hof.nodup_fieldNames, fun i f g => h.matches_field haccepts.types, ?_, ?_,
    ?_⟩
  · intro k hk x hx
    refine hfound x ?_
    rw [h.table] at hk
    rcases List.mem_append.mp hk with hk | hk
    · exact hkeys.primaryKey k (Option.mem_toList.mp hk) x hx
    · exact hkeys.uniqueKeys k hk x hx
  · intro k hk
    have hfields : ∀ x ∈ k.fields, ∃ f, t.field? x = some f := by
      intro x hx
      rw [h.table] at hk
      exact hfound x (hkeys.foreignKeys k hk x hx)
    obtain ⟨target, htarget, hrefers⟩ := hm.refers ht hk
    refine ⟨⟨hrefers.length, target, htarget, fun i x y hx hy => ?_⟩, hfields⟩
    obtain ⟨g, hg, hsame⟩ := hrefers.pairs i x y hx hy
    obtain ⟨f, hf⟩ := hfields x (List.mem_of_getElem? hx)
    exact ⟨f, g, hf, hg, hsame f hf⟩
  · intro c hc x hx
    obtain ⟨f, hf⟩ := h.declared_of_check hc x hx
    obtain ⟨g, hg, -⟩ := hof.field?_of_declared hf
    exact ⟨g, hg⟩

end Analysis

namespace Model

variable {s : Schema} {m : Model}

theorem matches_of_ofSchema (h : Model.ofSchema s = .ok m) {i : Nat} {declared : Fixtures.Table}
    {t : Table} (hdeclared : s.tables[i]? = some declared) (ht : m.tables[i]? = some t) :
    t.Matches s m declared := by
  have haccepts := accepts_of_ofSchema h
  have hi := congrArg (·[i]?) haccepts.tables
  simp only [List.getElem?_map, hdeclared, ht, Option.map_some, Option.some.injEq] at hi
  have hmem := List.mem_of_getElem? hdeclared
  have hnodup := (nodup_of_symbols haccepts.symbols).2 declared hmem
  exact matches_of_isAccepted (isOf_of_ofSchema h) haccepts (List.mem_of_getElem? ht) hmem
    (isTableOf_of_reviewTable hnodup hi) (isAccepted_of_reviewTable hnodup hi)

theorem exists_matches_of_ofSchema (h : Model.ofSchema s = .ok m) {t : Table} (ht : t ∈ m.tables) :
    ∃ declared, t.Matches s m declared := by
  obtain ⟨i, hi⟩ := List.getElem?_of_mem ht
  have hlength : s.tables.length = m.tables.length := by
    simpa [Model.tableNames] using (congrArg List.length (isOf_of_ofSchema h).tableNames).symm
  obtain ⟨declared, hdeclared⟩ := exists_getElem?_of_length hlength hi
  exact ⟨declared, matches_of_ofSchema h hdeclared hi⟩

theorem wellFormed_of_ofSchema (h : Model.ofSchema s = .ok m) : m.WellFormed s := by
  have hm := isOf_of_ofSchema h
  exact ⟨hm.tableNames, hm.nodup_tableNames, fun i declared t => matches_of_ofSchema h⟩

/-- Parts under a key of two fields, one of them of a custom type with a default, and uses of
them. -/
def stockSchema : Schema :=
  let quantity (name : String) : Fixtures.Field := { name, dataType := .custom "quantity" }
  { name := "stock"
    types := [
      { name := "quantity"
        base := .custom "count"
        constraints := [.range (some (.int 1)) none] },
      { name := "count"
        base := .primitive .integer
        constraints := [.range none (some (.int 9))] }]
    tables := [
      { name := "use"
        fields := [quantity "part", quantity "lot", { quantity "left" with
          modifiers := { nullable := true } }]
        constraints := [
          .foreignKey ⟨none, ["part", "lot"], "part", ["id", "lot"], none⟩,
          .check none "left < lot"] },
      { name := "part"
        fields := [
          { name := "id", dataType := .primitive .integer, constraints := [.primaryKey none []] },
          { quantity "lot" with
            modifiers := { default := some (.int 3) }
            constraints := [.primaryKey none [], .range none (some (.int 5))] }] }] }

theorem wellFormed_of_ofSchema_stock :
    ∃ m, Model.ofSchema stockSchema = .ok m ∧ m.WellFormed stockSchema := by
  have h : (Model.ofSchema stockSchema).toOption.isSome := by
    decide +kernel
  obtain ⟨m, hm⟩ := Option.isSome_iff_exists.mp h
  exact ⟨m, toOption_eq_some.mp hm, wellFormed_of_ofSchema (toOption_eq_some.mp hm)⟩

end Model

end Fixtures
