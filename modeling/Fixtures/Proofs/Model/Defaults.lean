import Fixtures.Proofs.Model.Review

namespace Fixtures

/-- Fields by the names of their tables and their own. -/
abbrev FieldSet := String → String → Bool

def Field.withoutDefault (p : String → Bool) (f : Field) : Field :=
  if p f.name then { f with modifiers := { f.modifiers with default := none } } else f

def Table.withoutDefaults (p : String → Bool) (t : Table) : Table :=
  { t with fields := t.fields.map (Field.withoutDefault p) }

def Schema.withoutDefaults (p : FieldSet) (s : Schema) : Schema :=
  { s with tables := s.tables.map fun t => t.withoutDefaults (p t.name) }

def Model.Field.withoutDefault (p : String → Bool) (f : Model.Field) : Model.Field :=
  if p f.name then { f with default := none } else f

def Model.Table.withoutDefaults (p : String → Bool) (t : Model.Table) : Model.Table :=
  { t with fields := t.fields.map (Model.Field.withoutDefault p) }

def Model.withoutDefaults (p : FieldSet) (m : Model) : Model :=
  { m with tables := m.tables.map fun t => t.withoutDefaults (p t.name) }

namespace Field

variable (p : String → Bool) (f : Field)

@[simp] theorem name_withoutDefault : (f.withoutDefault p).name = f.name := by
  unfold withoutDefault
  split <;> rfl

@[simp] theorem dataType_withoutDefault : (f.withoutDefault p).dataType = f.dataType := by
  unfold withoutDefault
  split <;> rfl

@[simp] theorem constraints_withoutDefault : (f.withoutDefault p).constraints = f.constraints := by
  unfold withoutDefault
  split <;> rfl

@[simp] theorem location_withoutDefault : (f.withoutDefault p).location = f.location := by
  unfold withoutDefault
  split <;> rfl

end Field

namespace Table

variable (p : String → Bool) (t : Table)

@[simp] theorem name_withoutDefaults : (t.withoutDefaults p).name = t.name := rfl

@[simp] theorem location_withoutDefaults : (t.withoutDefaults p).location = t.location := rfl

@[simp] theorem directive_withoutDefaults : (t.withoutDefaults p).directive = t.directive := rfl

@[simp] theorem field?_withoutDefaults (name : String) :
    (t.withoutDefaults p).field? name = (t.field? name).map (Field.withoutDefault p) := by
  simp only [field?, withoutDefaults, List.find?_map, Function.comp_def, Field.name_withoutDefault]

theorem allConstraints_withoutDefaults : (t.withoutDefaults p).allConstraints =
    t.allConstraints.map fun entry => (entry.1.map (Field.withoutDefault p), entry.2) := by
  simp [allConstraints, withoutDefaults, List.map_flatMap, List.flatMap_map, Function.comp_def]

end Table

namespace Model.Field

variable (p : String → Bool) (f : Model.Field)

@[simp] theorem name_withoutDefault : (f.withoutDefault p).name = f.name := by
  unfold withoutDefault
  split <;> rfl

@[simp] theorem terminal_withoutDefault : (f.withoutDefault p).terminal = f.terminal := by
  unfold withoutDefault
  split <;> rfl

@[simp] theorem domain_withoutDefault : (f.withoutDefault p).domain = f.domain := by
  unfold withoutDefault
  split <;> rfl

@[simp] theorem nullable_withoutDefault : (f.withoutDefault p).nullable = f.nullable := by
  unfold withoutDefault
  split <;> rfl

end Model.Field

namespace Model.Table

variable (p : String → Bool) (t : Model.Table)

@[simp] theorem name_withoutDefaults : (t.withoutDefaults p).name = t.name := rfl

@[simp] theorem keys_withoutDefaults : (t.withoutDefaults p).keys = t.keys := rfl

@[simp] theorem foreignKeys_withoutDefaults :
    (t.withoutDefaults p).foreignKeys = t.foreignKeys := rfl

@[simp] theorem directive_withoutDefaults : (t.withoutDefaults p).directive = t.directive := rfl

@[simp] theorem fieldIndex?_withoutDefaults (name : String) :
    (t.withoutDefaults p).fieldIndex? name = t.fieldIndex? name := by
  simp [fieldIndex?, withoutDefaults, List.findIdx?_map, Function.comp_def]

@[simp] theorem fieldNames_withoutDefaults : (t.withoutDefaults p).fieldNames = t.fieldNames := by
  simp [fieldNames, withoutDefaults, Function.comp_def]

end Model.Table

namespace Analysis

variable {p : String → Bool} {resolve : Resolution} {known : SymbolTable} {s : Schema}
    {t target : Table}

theorem firstOfEach_map {α : Type} {name : α → String} {f : α → α} (hf : ∀ a, name (f a) = name a)
    (seen : List String) (as : List α) :
    firstOfEach name seen (as.map f) = (firstOfEach name seen as).map f := by
  induction as generalizing seen with
  | nil => rfl
  | cons a as ih =>
    rw [List.map_cons, firstOfEach, firstOfEach, hf]
    split
    · exact ih seen
    · rw [ih, List.map_cons]

theorem filterMap_fst_map {α β : Type} (f : α → β) (reviews : List (Reviewed (Option α))) :
    (reviews.map fun r => ((r.1.map f, []) : Reviewed (Option β))).filterMap Prod.fst =
      (reviews.filterMap Prod.fst).map f := by
  simp only [List.filterMap_map, List.map_filterMap, Function.comp_def]

theorem declareTable_withoutDefaults (symbols : Reviewed SymbolTable) :
    declareTable symbols (t.withoutDefaults p) = declareTable symbols t := by
  have hfield : ∀ symbols f,
      declareField (t.withoutDefaults p) symbols (f.withoutDefault p) =
        declareField t symbols f := by
    intro symbols f
    simp only [declareField, Field.name_withoutDefault, Field.location_withoutDefault]
    rfl
  have hfields : ∀ symbols, (t.withoutDefaults p).fields.foldl
    (declareField (t.withoutDefaults p)) symbols =
      t.fields.foldl (declareField t) symbols := by
    intro symbols
    show (t.fields.map (Field.withoutDefault p)).foldl _ symbols = _
    simp only [List.foldl_map, hfield]
  simp only [declareTable, hfields]
  rfl

theorem symbols_withoutDefaults (p : FieldSet) (s : Schema) :
    symbols (s.withoutDefaults p) = symbols s := by
  simp only [symbols, Schema.withoutDefaults, List.foldl_map, declareTable_withoutDefaults]

@[simp] theorem keyFields_map (owner : Option Field) (listed : List String) :
    keyFields (owner.map (Field.withoutDefault p)) listed = keyFields owner listed := by
  cases owner <;> cases listed <;> simp [keyFields]

@[simp] theorem placeOf_map (owner : Option Field) :
    placeOf (t.withoutDefaults p) (owner.map (Field.withoutDefault p)) = placeOf t owner := by
  cases owner <;> simp [placeOf, Table.withoutDefaults]

theorem markedKey?_withoutDefaults : markedKey? (t.withoutDefaults p) = markedKey? t := by
  simp only [markedKey?, Table.withoutDefaults, List.filter_map, List.map_map, Function.comp_def,
    Field.constraints_withoutDefault, Field.name_withoutDefault]

theorem isKeyOf_withoutDefaults (fields : List String) :
    isKeyOf (t.withoutDefaults p) fields = isKeyOf t fields := by
  simp only [isKeyOf, markedKey?_withoutDefaults, Table.allConstraints_withoutDefaults,
    List.any_map, Function.comp_def, keyFields_map]

theorem listErrors_withoutDefaults (what : String) (location : Option Location)
    (fields : List String) :
    listErrors known (t.withoutDefaults p) what location fields =
      listErrors known t what location fields := by
  have hlist : ∀ seen, fieldListErrors known (t.withoutDefaults p) what location seen fields =
      fieldListErrors known t what location seen fields := by
    induction fields with
    | nil => exact fun _ => rfl
    | cons name names ih =>
      intro seen
      simp only [fieldListErrors, ih]
      rfl
  simp only [listErrors, hlist]
  rfl

theorem pairErrors_withoutDefaults {q : String → Bool} (location : Option Location)
    (field remote : String) :
    pairErrors resolve (t.withoutDefaults p) (target.withoutDefaults q) location field remote =
      pairErrors resolve t target location field remote := by
  unfold pairErrors
  simp only [Table.field?_withoutDefaults]
  cases target.field? remote with
  | none => rfl
  | some g =>
    simp only [Option.map_some, Option.map_map, Function.comp_def, Field.dataType_withoutDefault]
    rfl

theorem targetErrors_withoutDefaults {q : FieldSet} (location : Option Location) (k : ForeignKey) :
    targetErrors resolve (s.withoutDefaults q) (t.withoutDefaults p) location k =
      targetErrors resolve s t location k := by
  have htable : (s.withoutDefaults q).table? k.targetTable =
      (s.table? k.targetTable).map fun t => t.withoutDefaults (q t.name) := by
    simp only [Schema.table?, Schema.withoutDefaults, List.find?_map]
    rfl
  unfold targetErrors
  rw [htable]
  cases s.table? k.targetTable with
  | none => rfl
  | some target =>
    simp only [Option.map_some, pairErrors_withoutDefaults, isKeyOf_withoutDefaults]
    rfl

theorem reviewKey_withoutDefaults {q : FieldSet} (keys : KeyReview) (owner : Option Field)
    (c : Constraint) :
    reviewKey resolve known (s.withoutDefaults q) (t.withoutDefaults p) keys
        (owner.map (Field.withoutDefault p), c) =
      reviewKey resolve known s t keys (owner, c) := by
  unfold reviewKey
  simp only [keyFields_map, placeOf_map, listErrors_withoutDefaults, targetErrors_withoutDefaults,
    Option.isSome_map, Option.isNone_map]
  cases c <;> rfl

theorem reviewKeys_withoutDefaults {q : FieldSet} :
    reviewKeys resolve known (s.withoutDefaults q) (t.withoutDefaults p) =
      reviewKeys resolve known s t := by
  simp only [reviewKeys, Table.allConstraints_withoutDefaults, List.foldl_map,
    reviewKey_withoutDefaults]

theorem reviewCheck_withoutDefaults (location : Option Location) (name : Option String)
    (source : String) :
    reviewCheck (t.withoutDefaults p) location name source =
      reviewCheck t location name source := by
  simp only [reviewCheck, Table.field?_withoutDefaults, Option.isNone_map]
  rfl

theorem reviewChecks_withoutDefaults : reviewChecks (t.withoutDefaults p) = reviewChecks t := by
  simp only [reviewChecks, Table.allConstraints_withoutDefaults, List.filterMap_map,
    Function.comp_def, reviewCheck_withoutDefaults, placeOf_map]

theorem reviewDirective_withoutDefaults :
    reviewDirective (t.withoutDefaults p) = reviewDirective t := by
  have hoverride : ∀ d, reviewOverride (t.withoutDefaults p) d = reviewOverride t d := by
    intro d
    funext entry
    simp only [reviewOverride, Table.field?_withoutDefaults, Option.isNone_map,
      Table.name_withoutDefaults, Table.location_withoutDefaults]
  simp only [reviewDirective, Table.directive_withoutDefaults, Table.name_withoutDefaults,
    Table.location_withoutDefaults, hoverride]

theorem reviewField_withoutDefault {q : String → Bool} {f : Field}
    (h : (reviewField resolve t f).2 = []) :
    reviewField resolve (t.withoutDefaults q) (f.withoutDefault p) =
      ((reviewField resolve t f).1.map (Model.Field.withoutDefault p), []) := by
  obtain ⟨g, hg⟩ := reviewField_isSome_of_nil h
  have hname := (isFieldOf_of_reviewField hg).name
  have htable : reviewField resolve (t.withoutDefaults q) = reviewField resolve t := rfl
  rw [htable]
  -- The review looks at the default after all else, and reports nothing if there is none.
  by_cases hp : p f.name = true
  · unfold reviewField at h ⊢
    simp only [Field.withoutDefault, hp, if_true]
    cases hresolve : resolve f.dataType with
    | error e => simp [hresolve] at h
    | ok r =>
      cases hbuild : Domain.build r.terminal (f.constraints.filter Constraint.isOnValue ++
        r.constraints) with
      | error e => simp [hresolve, hbuild] at h
      | ok domain =>
        simp only [hresolve, hbuild, List.append_eq_nil_iff] at h ⊢
        simpa [Model.Field.withoutDefault, hp] using h.1
  · have hfield : f.withoutDefault p = f := if_neg hp
    have hmodel : g.withoutDefault p = g := if_neg (hname ▸ hp)
    rw [hfield, hg, Option.map_some, hmodel, ← hg, ← h]

@[simp] theorem withKey_withoutDefault (key : Option Model.Key) (g : Model.Field) :
    withKey key (g.withoutDefault p) = (withKey key g).withoutDefault p := by
  unfold withKey Model.Field.withoutDefault
  split <;> split <;> simp_all

theorem reviewTable_withoutDefaults (p : FieldSet) (h : (reviewTable resolve known s t).2 = []) :
    reviewTable resolve known (s.withoutDefaults p) (t.withoutDefaults (p t.name)) =
      ((reviewTable resolve known s t).1.map fun u => u.withoutDefaults (p u.name), []) := by
  unfold reviewTable at h ⊢
  simp only [reviewKeys_withoutDefaults, reviewChecks_withoutDefaults,
    reviewDirective_withoutDefaults] at h ⊢
  split at h
  · next hnil =>
    have herrors := hnil
    simp only [List.isEmpty_iff, List.append_eq_nil_iff] at herrors
    obtain ⟨⟨⟨hfields, hkeys⟩, hchecks⟩, hdirective⟩ := herrors
    have hreviewed : (firstOfEach Field.name [] (t.withoutDefaults (p t.name)).fields).map
        (reviewField resolve (t.withoutDefaults (p t.name))) =
          ((firstOfEach Field.name [] t.fields).map (reviewField resolve t)).map
            fun r => (r.1.map (Model.Field.withoutDefault (p t.name)), []) := by
      rw [Table.withoutDefaults, firstOfEach_map (Field.name_withoutDefault _), List.map_map,
        List.map_map]
      exact List.map_congr_left fun f hf => reviewField_withoutDefault
        (List.flatMap_eq_nil_iff.mp hfields _ (List.mem_map_of_mem hf))
    rw [hreviewed, filterMap_fst_map, if_pos hnil, if_pos (by simp [hkeys, hchecks, hdirective])]
    simp [Model.Table.withoutDefaults, Function.comp_def]
  · next hsome => exact absurd (List.isEmpty_iff.mpr h) hsome

theorem usedTypes_withoutDefaults (p : FieldSet) (types : TypeReview) (definitions : List TypeDecl)
    (tables : List Table) :
    usedTypes types definitions (tables.map fun t => t.withoutDefaults (p t.name)) =
      usedTypes types definitions tables := by
  have hfields : ∀ t : Table,
      (firstOfEach Field.name [] (t.withoutDefaults (p t.name)).fields).filterMap
          (fun f => customName? f.dataType) =
        (firstOfEach Field.name [] t.fields).filterMap fun f => customName? f.dataType := by
    intro t
    rw [Table.withoutDefaults, firstOfEach_map (Field.name_withoutDefault (p t.name)),
      List.filterMap_map]
    simp only [Function.comp_def, Field.dataType_withoutDefault]
  simp only [usedTypes, List.flatMap_map, hfields]

end Analysis

open Analysis

variable {s : Schema} {m : Model} {order : List String}

/-- An accepted schema is accepted without some of its defaults, and its model lacks just those. -/
theorem Model.ofSchema_withoutDefaults (p : FieldSet) (h : Model.ofSchema s = .ok m) :
    Model.ofSchema (s.withoutDefaults p) = .ok (m.withoutDefaults p) := by
  have hregistry : registry (s.withoutDefaults p) = registry s := rfl
  have hdecls : (s.withoutDefaults p).typeDecls = s.typeDecls := rfl
  have hdeclared : firstOfEach Fixtures.Table.name [] (s.withoutDefaults p).tables =
      (firstOfEach Fixtures.Table.name [] s.tables).map fun t => t.withoutDefaults (p t.name) :=
    firstOfEach_map (f := fun t => t.withoutDefaults (p t.name)) (fun _ => rfl) [] s.tables
  unfold Model.ofSchema at h ⊢
  simp only [hregistry, hdecls, hdeclared, symbols_withoutDefaults, usedTypes_withoutDefaults]
    at h ⊢
  split at h
  · next hnil =>
    cases h
    have herrors := hnil
    simp only [List.isEmpty_iff, List.append_eq_nil_iff, List.flatMap_eq_nil_iff] at herrors
    obtain ⟨⟨⟨htypes, hsymbols⟩, hreview⟩, hreviewed⟩ := herrors
    have hreviews : ((firstOfEach Fixtures.Table.name [] s.tables).map fun t =>
      t.withoutDefaults (p t.name)).map
        (reviewTable (fun t => ((registry s).1.resolve t).1) (symbols s).1 (s.withoutDefaults p)) =
          ((firstOfEach Fixtures.Table.name [] s.tables).map
            (reviewTable (fun t => ((registry s).1.resolve t).1) (symbols s).1 s)).map
              fun r => (r.1.map fun u => u.withoutDefaults (p u.name), []) := by
      rw [List.map_map, List.map_map]
      exact List.map_congr_left fun t ht =>
        reviewTable_withoutDefaults p (hreviewed _ (List.mem_map_of_mem ht))
    have hwarnings : ∀ tables : List Model.Table,
        (tables.map fun u => u.withoutDefaults (p u.name)).filterMap keyWarning? =
          tables.filterMap keyWarning? := by
      intro tables
      rw [List.filterMap_map]
      rfl
    rw [hreviews, filterMap_fst_map, hwarnings, if_pos (by simp [htypes, hsymbols, hreview])]
    rfl
  · cases h

theorem Schema.compile_withoutDefaults (p : FieldSet) (h : s.compile = .ok (m, order)) :
    (s.withoutDefaults p).compile = .ok (m.withoutDefaults p, order) := by
  obtain ⟨m', hm, hrest⟩ := bind_eq_ok.mp h
  have hgraph : (m'.withoutDefaults p).graph = m'.graph := by
    simp only [Model.graph, Model.withoutDefaults, List.map_map]
    rfl
  refine bind_eq_ok.mpr ⟨m'.withoutDefaults p, Model.ofSchema_withoutDefaults p hm, ?_⟩
  rw [hgraph]
  split at hrest
  · cases hrest
    rfl
  · cases hrest

end Fixtures
