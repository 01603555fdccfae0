import Fixtures.Proofs.Model.Lookup
import Fixtures.Proofs.Text.Names

namespace Fixtures

open Text

def Field.IsMarked (f : Field) : Prop :=
  ∃ name, Constraint.primaryKey name [] ∈ f.constraints

/-- Fields that make up a primary or unique key of a table, in any order. -/
def Model.Table.HasKey (t : Table) (fields : List String) : Prop :=
  ∃ k ∈ t.keys, ∀ x, x ∈ k.fields ↔ x ∈ fields

instance (t : Model.Table) (fields : List String) : Decidable (t.HasKey fields) :=
  decidable_of_iff (∃ k ∈ t.keys, nameSet k.fields = nameSet fields)
    (exists_congr fun _ => and_congr_right fun _ => nameSet_eq_iff)

namespace Analysis

variable {resolve : Resolution} {known : SymbolTable} {s : Schema} {declared : Table}
  {t : Model.Table} {keys : KeyReview} {entry : Option Field × Constraint}
  {entries done : List (Option Field × Constraint)} {fields : List String}

def merged : List (Bool × Model.Key) → Option Model.Key
  | [] => none
  | first :: rest =>
    some { first.2 with fields := first.2.fields ++ rest.flatMap fun p => p.2.fields }

theorem merged_eq_none {ps : List (Bool × Model.Key)} : merged ps = none ↔ ps = [] := by
  cases ps <;> simp [merged]

theorem merged_concat {ps : List (Bool × Model.Key)} {p : Bool × Model.Key} {taken : Model.Key}
    (h : merged ps = some taken) :
    merged (ps ++ [p]) = some { taken with fields := taken.fields ++ p.2.fields } := by
  cases ps with
  | nil => cases h
  | cons first rest =>
    cases h
    simp [merged]

theorem mem_merged {ps : List (Bool × Model.Key)} {k : Model.Key} (h : merged ps = some k)
    (x : String) : x ∈ k.fields ↔ ∃ p ∈ ps, x ∈ p.2.fields := by
  cases ps with
  | nil => cases h
  | cons first rest =>
    cases h
    simp

/-- Keys of a review are those of the constraints so far. Several primary keys are marks. -/
structure KeyReview.Collects (keys : KeyReview) (entries : List (Option Field × Constraint)) :
    Prop where
  primaryKey : keys.primaryKey = merged (entries.filterMap declaredPrimary?)
  uniqueKeys : keys.uniqueKeys = entries.filterMap declaredUnique?
  marked : ∀ p ∈ entries.filterMap declaredPrimary?, p.1 = keys.primaryIsMarked
  several : 1 < (entries.filterMap declaredPrimary?).length → keys.primaryIsMarked = true

theorem KeyReview.Collects.addPrimary {marked : Bool} {key : Model.Key} {second : Diagnostic}
    (h : keys.Collects entries) (hentry : declaredPrimary? entry = some (marked, key))
    (hunique : declaredUnique? entry = none)
    (hnone : (keys.addPrimary marked key second).errors = []) :
    (keys.addPrimary marked key second).Collects (entries ++ [entry]) := by
  have hprimary : (entries ++ [entry]).filterMap declaredPrimary? =
      entries.filterMap declaredPrimary? ++ [(marked, key)] := by
    simp [List.filterMap_append, hentry]
  have huniques : (entries ++ [entry]).filterMap declaredUnique? =
      entries.filterMap declaredUnique? := by
    simp [List.filterMap_append, hunique]
  unfold KeyReview.addPrimary at hnone ⊢
  cases htaken : keys.primaryKey with
  | none =>
    have hnothing := merged_eq_none.mp (h.primaryKey.symm.trans htaken)
    simp only
    refine ⟨?_, ?_, ?_, ?_⟩
    · simp [hprimary, hnothing, merged]
    · rw [huniques]
      exact h.uniqueKeys
    · simp [hprimary, hnothing]
    · simp [hprimary, hnothing]
  | some taken =>
    simp only [htaken] at hnone
    split at hnone
    · next hmarked =>
      obtain ⟨rfl, hmarks⟩ := Bool.and_eq_true_iff.mp hmarked
      simp only [hmarks, Bool.and_self, if_true]
      refine ⟨?_, ?_, ?_, fun _ => rfl⟩
      · rw [hprimary, merged_concat (h.primaryKey.symm.trans htaken)]
      · rw [huniques]
        exact h.uniqueKeys
      · intro p hp
        rw [hprimary] at hp
        rcases List.mem_append.mp hp with hp | hp
        · exact (h.marked p hp).trans hmarks
        · rw [List.mem_singleton.mp hp]
    · simp at hnone

theorem KeyReview.Collects.keepsPrimary {next : KeyReview} (h : keys.Collects entries)
    (hprimary : declaredPrimary? entry = none) (hnext : next.primaryKey = keys.primaryKey)
    (hmarked : next.primaryIsMarked = keys.primaryIsMarked)
    (huniques : next.uniqueKeys = keys.uniqueKeys ++ (declaredUnique? entry).toList) :
    next.Collects (entries ++ [entry]) := by
  have hprimaries : (entries ++ [entry]).filterMap declaredPrimary? =
      entries.filterMap declaredPrimary? := by
    simp [List.filterMap_append, hprimary]
  refine ⟨?_, ?_, ?_, ?_⟩
  · rw [hprimaries, hnext, h.primaryKey]
  · rw [huniques, h.uniqueKeys, List.filterMap_append]
    cases hunique : declaredUnique? entry <;> simp [hunique]
  · rw [hprimaries, hmarked]
    exact h.marked
  · rw [hprimaries, hmarked]
    exact h.several

theorem collects_reviewKeys (hnone : (reviewKeys resolve known s declared).errors = []) :
    (reviewKeys resolve known s declared).Collects declared.allConstraints := by
  refine reviewKeys_induction (p := KeyReview.Collects) hnone ⟨rfl, rfl, by simp, by simp⟩ ?_
  intro keys done entry next hkeys hnone hadds
  cases hadds with
  | primary hprimary hunique _ _ => exact hkeys.addPrimary hprimary hunique hnone
  | unique hprimary hunique _ _ =>
    exact hkeys.keepsPrimary hprimary rfl rfl (by rw [hunique]; rfl)
  | foreign hprimary hunique _ _ _ =>
    exact hkeys.keepsPrimary hprimary rfl rfl (by rw [hunique]; exact (List.append_nil _).symm)
  | other hprimary hunique _ =>
    exact hkeys.keepsPrimary hprimary rfl rfl (by rw [hunique]; exact (List.append_nil _).symm)

theorem mem_allConstraints_of_marked {f : Field} (hf : f ∈ declared.fields) (hmark : f.IsMarked) :
    ∃ name, (some f, Constraint.primaryKey name []) ∈ declared.allConstraints := by
  obtain ⟨name, hname⟩ := hmark
  refine ⟨name, List.mem_append_right _ (List.mem_flatMap.mpr ⟨f, hf, ?_⟩)⟩
  exact List.mem_map_of_mem hname

def primaries (declared : Table) : List (Bool × Model.Key) :=
  declared.allConstraints.filterMap declaredPrimary?

theorem exists_primary_of_marked {f : Field} (hf : f ∈ declared.fields) (hmark : f.IsMarked) :
    ∃ k : Model.Key, (true, k) ∈ primaries declared ∧ k.fields = [f.name] := by
  obtain ⟨name, hmem⟩ := mem_allConstraints_of_marked hf hmark
  exact ⟨_, List.mem_filterMap.mpr ⟨_, hmem, rfl⟩, rfl⟩

theorem exists_marked_of_primary {k : Model.Key} (h : (true, k) ∈ primaries declared) :
    ∃ f ∈ declared.fields, f.IsMarked ∧ k.fields = [f.name] := by
  obtain ⟨⟨owner, c⟩, hmem, hentry⟩ := List.mem_filterMap.mp h
  cases c with
  | primaryKey name listed =>
    simp only [declaredPrimary?, Option.some.injEq, Prod.mk.injEq, Bool.and_eq_true,
      List.isEmpty_iff] at hentry
    obtain ⟨⟨howner, rfl⟩, rfl⟩ := hentry
    obtain ⟨f, rfl⟩ := Option.isSome_iff_exists.mp howner
    rcases List.mem_append.mp hmem with hmem | hmem
    · simp at hmem
    · obtain ⟨g, hg, hmem⟩ := List.mem_flatMap.mp hmem
      obtain ⟨c, hc, heq⟩ := List.mem_map.mp hmem
      obtain ⟨hgf, rfl⟩ := Prod.mk.inj heq
      cases hgf
      exact ⟨f, hg, ⟨name, hc⟩, rfl⟩
  | _ => simp [declaredPrimary?] at hentry

theorem mem_markedNames {x : String} : x ∈ ((declared.fields.filter fun f =>
    f.constraints.any fun c =>
      match c with
      | .primaryKey _ [] => true
      | _ => false).map Field.name) ↔ ∃ f ∈ declared.fields, f.IsMarked ∧ f.name = x := by
  simp only [List.mem_map, List.mem_filter, List.any_eq_true]
  constructor
  · rintro ⟨f, ⟨hf, c, hc, hmark⟩, rfl⟩
    split at hmark
    · next name => exact ⟨f, hf, ⟨name, hc⟩, rfl⟩
    · cases hmark
  · rintro ⟨f, hf, ⟨name, hc⟩, rfl⟩
    exact ⟨f, ⟨hf, _, hc, rfl⟩, rfl⟩

theorem markedKey?_eq_some {names : List String} : markedKey? declared = some (nameSet names) ↔
    (∃ f ∈ declared.fields, ∃ g ∈ declared.fields, f.IsMarked ∧ g.IsMarked ∧ f.name ≠ g.name) ∧
      ∀ x, x ∈ names ↔ ∃ f ∈ declared.fields, f.IsMarked ∧ f.name = x := by
  unfold markedKey?
  simp only [Option.ite_none_right_eq_some, Option.some.injEq, one_lt_length_nameSet,
    nameSet_eq_iff]
  constructor
  · rintro ⟨⟨x, hx, y, hy, hne⟩, hsame⟩
    obtain ⟨f, hf, hfmark, rfl⟩ := mem_markedNames.mp hx
    obtain ⟨g, hg, hgmark, rfl⟩ := mem_markedNames.mp hy
    exact ⟨⟨f, hf, g, hg, hfmark, hgmark, hne⟩, fun x => (hsame x).symm.trans mem_markedNames⟩
  · rintro ⟨⟨f, hf, g, hg, hfmark, hgmark, hne⟩, hsame⟩
    exact ⟨⟨f.name, mem_markedNames.mpr ⟨f, hf, hfmark, rfl⟩, g.name,
      mem_markedNames.mpr ⟨g, hg, hgmark, rfl⟩, hne⟩, fun x => mem_markedNames.trans (hsame x).symm⟩

/-- Fields are taken for a key if a constraint declares just them as one, or all that are marked. -/
theorem isKeyOf_iff : isKeyOf declared fields = true ↔
    (∃ p ∈ primaries declared, ∀ x, x ∈ p.2.fields ↔ x ∈ fields) ∨
      (∃ k ∈ declared.allConstraints.filterMap declaredUnique?, ∀ x, x ∈ k.fields ↔ x ∈ fields) ∨
      markedKey? declared = some (nameSet fields) := by
  unfold isKeyOf primaries
  simp only [Bool.or_eq_true, List.any_eq_true, decide_eq_true_eq, List.mem_filterMap]
  rw [← or_assoc]
  refine or_congr ?_ Iff.rfl
  constructor
  · rintro ⟨⟨owner, c⟩, hmem, h⟩
    cases c with
    | primaryKey name listed =>
      exact .inl ⟨_, ⟨_, hmem, rfl⟩, nameSet_eq_iff.mp (of_decide_eq_true h)⟩
    | unique name listed =>
      exact .inr ⟨_, ⟨_, hmem, rfl⟩, nameSet_eq_iff.mp (of_decide_eq_true h)⟩
    | _ => cases h
  · rintro (⟨p, ⟨⟨owner, c⟩, hmem, hp⟩, hsame⟩ | ⟨k, ⟨⟨owner, c⟩, hmem, hk⟩, hsame⟩)
    · cases c with
      | primaryKey name listed =>
        cases hp
        exact ⟨_, hmem, decide_eq_true (nameSet_eq_iff.mpr hsame)⟩
      | _ => cases hp
    · cases c with
      | unique name listed =>
        cases hk
        exact ⟨_, hmem, decide_eq_true (nameSet_eq_iff.mpr hsame)⟩
      | _ => cases hk

/-- How a table comes by its primary key: from no constraint, from one, or from marks on fields. -/
theorem primaryKey_cases (h : IsTableOf resolve s declared t) :
    (primaries declared = [] ∧ t.primaryKey = none) ∨
      (∃ p, primaries declared = [p] ∧ t.primaryKey = some p.2) ∨
      ∃ k, t.primaryKey = some k ∧ primaries declared ≠ [] ∧
        (∀ p ∈ primaries declared, p.1 = true) ∧
        ∀ x, x ∈ k.fields ↔ ∃ f ∈ declared.fields, f.IsMarked ∧ f.name = x := by
  obtain ⟨known, hkeys⟩ := h.reviewed
  have hcollects := collects_reviewKeys hkeys.errors
  have hprimary : t.primaryKey = merged (primaries declared) :=
    hkeys.primaryKey.trans hcollects.primaryKey
  match hps : primaries declared with
  | [] => exact .inl ⟨rfl, by rw [hprimary, hps]; rfl⟩
  | [p] => exact .inr (.inl ⟨p, rfl, by rw [hprimary, hps]; simp [merged]⟩)
  | p :: q :: rest =>
    have hmarks := hcollects.several (by
      show 1 < (primaries declared).length
      simp [hps])
    have hall : ∀ p ∈ primaries declared, p.1 = true := fun p hp =>
      (hcollects.marked p hp).trans hmarks
    have hk := hprimary
    rw [hps, merged] at hk
    rw [← hps]
    refine .inr (.inr ⟨_, hk, by simp [hps], hall, fun x => ?_⟩)
    rw [mem_merged (hprimary.symm.trans hk)]
    constructor
    · rintro ⟨⟨mark, k⟩, hp, hx⟩
      obtain rfl : mark = true := hall _ hp
      obtain ⟨f, hf, hmark, hfields⟩ := exists_marked_of_primary hp
      rw [hfields, List.mem_singleton] at hx
      exact ⟨f, hf, hmark, hx.symm⟩
    · rintro ⟨f, hf, hmark, rfl⟩
      obtain ⟨k, hp, hfields⟩ := exists_primary_of_marked hf hmark
      exact ⟨_, hp, by simp [hfields]⟩

/-- A field that is marked as primary while the primary key has other fields, too. -/
def IsLoneMark (declared : Table) (t : Model.Table) (fields : List String) : Prop :=
  ∃ f ∈ declared.fields, f.IsMarked ∧ (∀ x, x ∈ fields ↔ x = f.name) ∧
    ∃ k, t.primaryKey = some k ∧ f.name ∈ k.fields ∧ ∃ x ∈ k.fields, x ≠ f.name

theorem mem_iff_eq_of_no_other {names : List String} {name : String} (hmem : name ∈ names)
    (h : ¬ ∃ x ∈ names, x ≠ name) (x : String) : x ∈ names ↔ x = name := by
  constructor
  · intro hx
    apply Classical.byContradiction
    exact fun hne => h ⟨x, hx, hne⟩
  · rintro rfl
    exact hmem

theorem hasKey_of_primaryKey {k : Model.Key} (hk : t.primaryKey = some k)
    (hsame : ∀ x, x ∈ k.fields ↔ x ∈ fields) : t.HasKey fields :=
  ⟨k, List.mem_append_left _ (by simp [hk]), hsame⟩

theorem mem_uniqueKeys (h : IsTableOf resolve s declared t) {k : Model.Key} :
    k ∈ t.uniqueKeys ↔ k ∈ declared.allConstraints.filterMap declaredUnique? := by
  obtain ⟨known, hkeys⟩ := h.reviewed
  rw [hkeys.uniqueKeys, (collects_reviewKeys hkeys.errors).uniqueKeys]

theorem hasKey_or_isLoneMark_of_primary (h : IsTableOf resolve s declared t)
    {p : Bool × Model.Key} (hp : p ∈ primaries declared)
    (hsame : ∀ x, x ∈ p.2.fields ↔ x ∈ fields) :
    t.HasKey fields ∨ IsLoneMark declared t fields := by
  rcases primaryKey_cases h with ⟨hnone, -⟩ | ⟨q, hq, hkey⟩ | ⟨k, hkey, -, hmarks, hall⟩
  · simp [hnone] at hp
  · rw [hq, List.mem_singleton] at hp
    subst hp
    exact .inl (hasKey_of_primaryKey hkey hsame)
  · obtain ⟨mark, own⟩ := p
    obtain rfl : mark = true := hmarks _ hp
    obtain ⟨f, hf, hmark, hfields⟩ := exists_marked_of_primary hp
    have hone : ∀ x, x ∈ fields ↔ x = f.name := by
      intro x
      rw [← hsame x, hfields, List.mem_singleton]
    have hmem : f.name ∈ k.fields := (hall f.name).mpr ⟨f, hf, hmark, rfl⟩
    by_cases hmore : ∃ x ∈ k.fields, x ≠ f.name
    · exact .inr ⟨f, hf, hmark, hone, k, hkey, hmem, hmore⟩
    · refine .inl (hasKey_of_primaryKey hkey fun x => ?_)
      rw [hone x, mem_iff_eq_of_no_other hmem hmore]

theorem hasKey_of_markedKey? (h : IsTableOf resolve s declared t)
    (hmarked : markedKey? declared = some (nameSet fields)) : t.HasKey fields := by
  obtain ⟨⟨f, hf, g, hg, hfmark, hgmark, hne⟩, hsame⟩ := markedKey?_eq_some.mp hmarked
  obtain ⟨kf, hkf, hffields⟩ := exists_primary_of_marked hf hfmark
  obtain ⟨kg, hkg, hgfields⟩ := exists_primary_of_marked hg hgmark
  rcases primaryKey_cases h with ⟨hnone, -⟩ | ⟨p, hp, -⟩ | ⟨k, hkey, -, -, hall⟩
  · simp [hnone] at hkf
  · rw [hp, List.mem_singleton] at hkf hkg
    have hkeys : kf = kg := (Prod.mk.inj (hkf.trans hkg.symm)).2
    rw [hkeys, hgfields] at hffields
    exact absurd (List.cons.inj hffields).1.symm hne
  · refine hasKey_of_primaryKey hkey fun x => ?_
    rw [hall x, hsame x]

theorem isKeyOf_of_primary {p : Bool × Model.Key} (hp : p ∈ primaries declared)
    (hsame : ∀ x, x ∈ p.2.fields ↔ x ∈ fields) : isKeyOf declared fields = true :=
  isKeyOf_iff.mpr (.inl ⟨p, hp, hsame⟩)

theorem isKeyOf_of_hasKey (h : IsTableOf resolve s declared t) (hkey : t.HasKey fields) :
    isKeyOf declared fields = true := by
  obtain ⟨k, hk, hsame⟩ := hkey
  rcases List.mem_append.mp hk with hk | hk
  · rw [Option.mem_toList] at hk
    rcases primaryKey_cases h with ⟨-, hnone⟩ | ⟨p, hp, hkey⟩ | ⟨q, hkey, hne, hmarks, hall⟩
    · simp [hnone] at hk
    · rw [hkey] at hk
      cases hk
      exact isKeyOf_of_primary (by simp [hp]) hsame
    · rw [hkey] at hk
      cases hk
      by_cases hseveral : ∃ x ∈ k.fields, ∃ y ∈ k.fields, x ≠ y
      · obtain ⟨x, hx, y, hy, hxy⟩ := hseveral
        obtain ⟨f, hf, hfmark, rfl⟩ := (hall x).mp hx
        obtain ⟨g, hg, hgmark, rfl⟩ := (hall y).mp hy
        refine isKeyOf_iff.mpr (.inr (.inr (markedKey?_eq_some.mpr
          ⟨⟨f, hf, g, hg, hfmark, hgmark, hxy⟩, fun z => ?_⟩)))
        rw [← hsame z, hall z]
      · obtain ⟨⟨mark, own⟩, hp⟩ := List.exists_mem_of_ne_nil _ hne
        obtain rfl : mark = true := hmarks _ hp
        obtain ⟨f, hf, hmark, hfields⟩ := exists_marked_of_primary hp
        have hmem : f.name ∈ k.fields := (hall f.name).mpr ⟨f, hf, hmark, rfl⟩
        have hone : ¬ ∃ x ∈ k.fields, x ≠ f.name :=
          fun ⟨x, hx, hne⟩ => hseveral ⟨x, hx, f.name, hmem, hne⟩
        refine isKeyOf_of_primary hp fun x => ?_
        rw [← hsame x, hfields, List.mem_singleton, mem_iff_eq_of_no_other hmem hone]
  · exact isKeyOf_iff.mpr (.inr (.inl ⟨k, (mem_uniqueKeys h).mp hk, hsame⟩))

theorem isKeyOf_of_isLoneMark (h : IsLoneMark declared t fields) :
    isKeyOf declared fields = true := by
  obtain ⟨f, hf, hmark, hone, -⟩ := h
  obtain ⟨k, hk, hfields⟩ := exists_primary_of_marked hf hmark
  refine isKeyOf_of_primary hk fun x => ?_
  rw [hone x, hfields, List.mem_singleton]

theorem isKeyOf_iff_hasKey (h : IsTableOf resolve s declared t) :
    isKeyOf declared fields = true ↔ t.HasKey fields ∨ IsLoneMark declared t fields := by
  constructor
  · intro hkey
    rcases isKeyOf_iff.mp hkey with ⟨p, hp, hsame⟩ | ⟨k, hk, hsame⟩ | hmarked
    · exact hasKey_or_isLoneMark_of_primary h hp hsame
    · exact .inl ⟨k, List.mem_append_right _ ((mem_uniqueKeys h).mpr hk), hsame⟩
    · exact .inl (hasKey_of_markedKey? h hmarked)
  · rintro (hkey | hlone)
    · exact isKeyOf_of_hasKey h hkey
    · exact isKeyOf_of_isLoneMark hlone

end Analysis

namespace Model

open Analysis

variable {s : Schema} {m : Model}

theorem exists_key_of_isKeyOf {resolve : Resolution} {declared : Fixtures.Table} {target : Table}
    {fields : List String} (h : IsTableOf resolve s declared target)
    (hkey : isKeyOf declared fields = true) {y : String} (hy : y ∈ fields) :
    ∃ key ∈ target.keys, y ∈ key.fields := by
  rcases (isKeyOf_iff_hasKey h).mp hkey with ⟨key, hmem, hsame⟩ | ⟨f, -, -, hone, key, hprimary, hf,
    -⟩
  · exact ⟨key, hmem, (hsame y).mpr hy⟩
  · refine ⟨key, List.mem_append_left _ (by simp [hprimary]), ?_⟩
    rw [(hone y).mp hy]
    exact hf

theorem IsOf.exists_key_of_target (h : m.IsOf s) {t target : Table} {k : ForeignKey}
    (ht : t ∈ m.tables) (hk : k ∈ t.foreignKeys) (htarget : m.table? k.targetTable = some target)
    {y : String} (hy : y ∈ k.targetFields) : ∃ key ∈ target.keys, y ∈ key.fields := by
  obtain ⟨own, -, hown⟩ := h.mem_tables ht
  have hpairs := hown.keys k hk
  obtain ⟨declared, hdeclared, -⟩ := hpairs.target
  obtain ⟨target', htarget', hof⟩ := h.table?_of_declared hdeclared
  rw [htarget] at htarget'
  cases htarget'
  exact exists_key_of_isKeyOf hof (hpairs.covered declared hdeclared) hy

/-- Each foreign key of a model has as many target fields as fields, and they are fields of its
target table. Together they are a key of that table or a lone mark. -/
def TargetsKeys (m : Model) (s : Schema) : Prop :=
  (∀ t ∈ m.tables, ∀ k ∈ t.foreignKeys, ∃ declared target,
    s.table? k.targetTable = some declared ∧ m.table? k.targetTable = some target ∧
      k.fields.Nodup ∧ k.targetFields.length = k.fields.length ∧
      (∀ y ∈ k.targetFields, ∃ f, target.field? y = some f) ∧
      (target.HasKey k.targetFields ∨ IsLoneMark declared target k.targetFields)) ∧
  ∀ name declared target, s.table? name = some declared → m.table? name = some target →
    ∀ fields, isKeyOf declared fields = true ↔
      target.HasKey fields ∨ IsLoneMark declared target fields

theorem targets_keys (h : Model.ofSchema s = .ok m) : m.TargetsKeys s := by
  have hm := isOf_of_ofSchema h
  have htables : ∀ name declared target, s.table? name = some declared →
      m.table? name = some target → IsTableOf s.resolution s declared target := by
    intro name declared target hdeclared htarget
    obtain ⟨target', htarget', hof⟩ := hm.table?_of_declared hdeclared
    rw [htarget] at htarget'
    cases htarget'
    exact hof
  refine ⟨fun t ht k hk => ?_, fun name declared target hdeclared htarget fields =>
    isKeyOf_iff_hasKey (htables name declared target hdeclared htarget)⟩
  obtain ⟨target, htarget, hrefers⟩ := hm.refers ht hk
  obtain ⟨own, -, hown⟩ := hm.mem_tables ht
  have hpairs := hown.keys k hk
  obtain ⟨declared, hdeclared, -⟩ := hpairs.target
  refine ⟨declared, target, hdeclared, htarget, hrefers.nodup, hrefers.length,
    fun y hy => hrefers.exists_target hy, ?_⟩
  exact (isKeyOf_iff_hasKey (htables _ _ _ hdeclared htarget)).mp
    (hpairs.covered declared hdeclared)

/-- A table with one foreign key to a field of two that are marked, and one that lists its target
twice. -/
def loneMarkSchema : Schema :=
  let intField (name : String) (constraints : List Constraint) : Fixtures.Field :=
    { name, dataType := .primitive .integer, constraints }
  { name := "s"
    tables := [
      { name := "p"
        fields := [intField "x" [.primaryKey none []], intField "y" [.primaryKey none []]]
        directive := some { count := some 2 } },
      { name := "q"
        fields := [intField "z" [.primaryKey none []]]
        directive := some { count := some 2 } },
      { name := "c"
        fields := [intField "a" [], intField "b" []]
        constraints := [
          .foreignKey ⟨none, ["a"], "p", ["x"], none⟩,
          .foreignKey ⟨none, ["a", "b"], "q", ["z", "z"], none⟩]
        directive := some { count := some 2 } }] }

/-- Whether a model has a table with a foreign key whose target is no key, and one that lists a
target field twice. -/
def strays (m : Model) : Bool :=
  m.tables.any fun t =>
    (t.foreignKeys.any fun k => (m.table? k.targetTable).any fun target =>
      !decide (target.HasKey k.targetFields)) &&
    t.foreignKeys.any fun k => !decide k.targetFields.Nodup

theorem loneMarkSchema_strays :
    ∃ m, Model.ofSchema loneMarkSchema = .ok m ∧ strays m = true := by
  have h : (Model.ofSchema loneMarkSchema).toOption.map strays = some true := by
    decide +kernel
  obtain ⟨m, hm, hstrays⟩ := Option.map_eq_some_iff.mp h
  exact ⟨m, toOption_eq_some.mp hm, hstrays⟩

theorem targets_keys_loneMark :
    ∃ m, Model.ofSchema loneMarkSchema = .ok m ∧ m.TargetsKeys loneMarkSchema := by
  obtain ⟨m, hm, -⟩ := loneMarkSchema_strays
  exact ⟨m, hm, targets_keys hm⟩

/-- One field of a primary key that is marked field by field is accepted as a target, and so is a
list that names its one field twice. -/
theorem lone_mark_is_targeted : ∃ m t, Model.ofSchema loneMarkSchema = .ok m ∧ t ∈ m.tables ∧
    (∃ k ∈ t.foreignKeys, ∃ target, m.table? k.targetTable = some target ∧
      ¬ target.HasKey k.targetFields) ∧
    ∃ k ∈ t.foreignKeys, ¬ k.targetFields.Nodup := by
  obtain ⟨m, hm, h⟩ := loneMarkSchema_strays
  simp only [strays, List.any_eq_true, Bool.and_eq_true, Option.any_eq_true, Bool.not_eq_true',
    decide_eq_false_iff_not] at h
  obtain ⟨t, ht, ⟨k, hk, target, htarget, hkey⟩, hrepeated⟩ := h
  exact ⟨m, t, hm, ht, ⟨k, hk, target, htarget, hkey⟩, hrepeated⟩

end Model

end Fixtures
