import Mathlib.Data.List.Nodup
import Fixtures.Proofs.Model.Acceptance

namespace Fixtures

/-- A primary key without fields, which stands for the field that it is on. -/
def Constraint.isMark : Constraint → Bool
  | .primaryKey _ [] => true
  | _ => false

def Field.marks (f : Field) : Nat :=
  f.constraints.countP Constraint.isMark

/-- Marked fields of a table in their order, each as often as it is marked. -/
def Table.markedFields (t : Table) : List String :=
  t.fields.flatMap fun f => List.replicate f.marks f.name

namespace Analysis

variable {resolve : Resolution} {known : SymbolTable} {s : Schema} {declared : Table}
  {t : Model.Table} {keys : KeyReview} {entry : Option Field × Constraint}
  {entries : List (Option Field × Constraint)}

/-- Fields that may be a key: at least one, none of them twice. -/
structure IsKeyList (fields : List String) : Prop where
  ne_nil : fields ≠ []
  nodup : fields.Nodup

theorem isKeyList_of_listErrors {what : String} {location : Option Location} {fields : List String}
    (h : listErrors known declared what location fields = []) : IsKeyList fields := by
  refine ⟨?_, (isListable_of_listErrors h).nodup⟩
  rintro rfl
  cases h

def Declares (entry : Option Field × Constraint) (k : Model.Key) : Prop :=
  (∃ marked, declaredPrimary? entry = some (marked, k)) ∨ declaredUnique? entry = some k

theorem isKeyList_of_declares {k : Model.Key}
    (h : (reviewKey resolve known s declared keys entry).errors = []) (hk : Declares entry k) :
    IsKeyList k.fields := by
  obtain ⟨owner, c⟩ := entry
  cases c with
  | primaryKey name listed | unique name listed =>
    obtain ⟨marked, hk⟩ | hk := hk <;> cases hk
    simp only [reviewKey] at h
    split at h
    · next hlist => exact isKeyList_of_listErrors hlist
    · next hlist => exact absurd (List.append_eq_nil_iff.mp h).2 hlist
  | _ => obtain ⟨marked, hk⟩ | hk := hk <;> cases hk

theorem exists_reviewKey_of_mem
    (h : (entries.foldl (reviewKey resolve known s declared) keys).errors = []) :
    keys.errors = [] ∧ ∀ entry ∈ entries, ∃ before,
      (reviewKey resolve known s declared before entry).errors = [] := by
  induction entries generalizing keys with
  | nil => exact ⟨h, by simp⟩
  | cons entry entries ih =>
    obtain ⟨hentry, hentries⟩ := ih h
    exact ⟨(adds_of_reviewKey hentry).1, List.forall_mem_cons.mpr ⟨⟨keys, hentry⟩, hentries⟩⟩

theorem isKeyList_of_mem (h : (reviewKeys resolve known s declared).errors = []) {k : Model.Key}
    (hentry : entry ∈ declared.allConstraints) (hk : Declares entry k) : IsKeyList k.fields := by
  obtain ⟨before, hreview⟩ := (exists_reviewKey_of_mem h).2 entry hentry
  exact isKeyList_of_declares hreview hk

theorem isKeyList_of_mem_primaries (h : (reviewKeys resolve known s declared).errors = [])
    {p : Bool × Model.Key} (hp : p ∈ primaries declared) : IsKeyList p.2.fields := by
  obtain ⟨entry, hentry, hp⟩ := List.mem_filterMap.mp hp
  exact isKeyList_of_mem h hentry (.inl ⟨p.1, hp⟩)

theorem flatMap_marks (f : Field) (cs : List Constraint) :
    (((cs.map fun c => (some f, c)).filterMap declaredPrimary?).filter Prod.fst).flatMap
      (fun p => p.2.fields) = List.replicate (cs.countP Constraint.isMark) f.name := by
  induction cs with
  | nil => rfl
  | cons c cs ih =>
    rw [List.map_cons]
    cases c with
    | primaryKey name listed =>
      rw [List.filterMap_cons_some (show declaredPrimary? (some f, .primaryKey name listed) =
        some (listed.isEmpty, ⟨name, keyFields (some f) listed, true⟩) from rfl)]
      cases listed with
      | nil => simpa [keyFields, List.countP_cons, Constraint.isMark, List.replicate_succ] using ih
      | cons x listed => simpa [Constraint.isMark] using ih
    | _ =>
      rw [List.filterMap_cons_none rfl, ih]
      rfl

theorem flatMap_marked_primaries (declared : Table) :
    ((primaries declared).filter Prod.fst).flatMap (fun p => p.2.fields) =
      declared.markedFields := by
  have htable : ((declared.constraints.map fun c => ((none : Option Field), c)).filterMap
      declaredPrimary?).filter Prod.fst = [] := by
    rw [List.filter_eq_nil_iff]
    intro p hp
    obtain ⟨entry, hentry, hp⟩ := List.mem_filterMap.mp hp
    obtain ⟨c, -, rfl⟩ := List.mem_map.mp hentry
    cases c with
    | primaryKey name listed =>
      cases hp
      simp
    | _ => cases hp
  unfold primaries Table.allConstraints Table.markedFields
  rw [List.filterMap_append, List.filter_append, htable, List.nil_append, List.filterMap_flatMap,
    List.filter_flatMap, List.flatMap_assoc]
  exact List.flatMap_congr fun f _ => flatMap_marks f f.constraints

theorem nodup_markedFields (h : (declared.fields.map Field.name).Nodup) :
    declared.markedFields.Nodup ↔ ∀ f ∈ declared.fields, f.marks ≤ 1 := by
  have hapart : declared.fields.Pairwise
      (List.Disjoint.onFun fun f => List.replicate f.marks f.name) := by
    refine (List.pairwise_map.mp h).imp fun hne x hf hg => ?_
    exact hne ((List.eq_of_mem_replicate hf).symm.trans (List.eq_of_mem_replicate hg))
  simp only [Table.markedFields, List.nodup_flatMap, List.nodup_replicate, hapart, and_true]

theorem marks_eq_zero (h : declared.markedFields = []) :
    ∀ f ∈ declared.fields, f.marks = 0 := by
  intro f hf
  have hnone := List.flatMap_eq_nil_iff.mp h f hf
  simpa using hnone

theorem fields_of_merged {ps : List (Bool × Model.Key)} {k : Model.Key} (h : merged ps = some k) :
    k.fields = ps.flatMap fun p => p.2.fields := by
  cases ps with
  | nil => cases h
  | cons first rest =>
    cases h
    rfl

/-- The primary key of a table is what one constraint lists, or it consists of all marks. -/
theorem primaryKey_fields (h : (reviewKeys resolve known s declared).errors = []) {k : Model.Key}
    (hk : (reviewKeys resolve known s declared).primaryKey = some k) :
    k.fields ≠ [] ∧
      (k.fields.Nodup ∧ declared.markedFields = [] ∨ k.fields = declared.markedFields) := by
  have hcollects := collects_reviewKeys h
  have hmerged : merged (primaries declared) = some k := hcollects.primaryKey.symm.trans hk
  have hlists : ∀ p ∈ primaries declared, IsKeyList p.2.fields :=
    fun p hp => isKeyList_of_mem_primaries h hp
  have hmarks := flatMap_marked_primaries declared
  have hfields := fields_of_merged hmerged
  match hps : primaries declared with
  | [] =>
    rw [hps] at hmerged
    cases hmerged
  | p :: rest =>
    rw [hps] at hfields
    have hp := hlists p (by simp [hps])
    refine ⟨by simp [hfields, hp.ne_nil], ?_⟩
    cases hmarked : (reviewKeys resolve known s declared).primaryIsMarked with
    | true =>
      have hall : ∀ q ∈ primaries declared, q.1 = true := fun q hq =>
        (hcollects.marked q hq).trans hmarked
      rw [List.filter_eq_self.mpr hall, hps, ← hfields] at hmarks
      exact .inr hmarks
    | false =>
      have hone : rest = [] := by
        have hseveral := mt hcollects.several (by simp [hmarked])
        have hlength : ¬ 1 < (primaries declared).length := hseveral
        rw [hps, List.length_cons] at hlength
        exact List.length_eq_zero_iff.mp (by omega)
      have hmem : p ∈ primaries declared := by simp [hps]
      have hunmarked : p.1 = false := (hcollects.marked p hmem).trans hmarked
      rw [hps, hone] at hmarks
      rw [hone] at hfields
      refine .inl ⟨?_, ?_⟩
      · simpa [hfields] using hp.nodup
      · simpa [hunmarked] using hmarks.symm

end Analysis

namespace Model

open Analysis

variable {s : Schema} {m : Model}

/-- Keys of a table with the fields that its declaration lists for them. A field is twice in the
primary key exactly if it is marked as primary more than once. -/
structure Table.ListsFields (declared : Fixtures.Table) (t : Table) : Prop where
  ne_nil : ∀ k ∈ t.keys, k.fields ≠ []
  uniqueKeys : ∀ k ∈ t.uniqueKeys, k.fields.Nodup
  primaryKey : ∀ k, t.primaryKey = some k → k.fields.Nodup ∨ k.fields = declared.markedFields
  nodup_iff : ∀ k, t.primaryKey = some k →
    (k.fields.Nodup ↔ ∀ f ∈ declared.fields, f.marks ≤ 1)

end Model

namespace Analysis

variable {resolve : Resolution} {known : SymbolTable} {s : Schema} {declared : Table}
  {t : Model.Table}

theorem IsAccepted.listsFields (h : IsAccepted resolve known s declared t)
    (hnodup : (declared.fields.map Field.name).Nodup) : t.ListsFields declared := by
  have hprimary : ∀ k, t.primaryKey = some k → k.fields ≠ [] ∧
      (k.fields.Nodup ∧ declared.markedFields = [] ∨ k.fields = declared.markedFields) := by
    intro k hk
    rw [h.table] at hk
    exact primaryKey_fields h.keys hk
  have hunique : ∀ k ∈ t.uniqueKeys, IsKeyList k.fields := by
    intro k hk
    rw [h.uniqueKeys] at hk
    obtain ⟨entry, hentry, hk⟩ := List.mem_filterMap.mp hk
    exact isKeyList_of_mem h.keys hentry (.inr hk)
  refine ⟨fun k hk => ?_, fun k hk => (hunique k hk).nodup, fun k hk => ?_, fun k hk => ?_⟩
  · rcases List.mem_append.mp hk with hk | hk
    · exact (hprimary k (Option.mem_toList.mp hk)).1
    · exact (hunique k hk).ne_nil
  · exact (hprimary k hk).2.imp And.left id
  · rcases (hprimary k hk).2 with ⟨hlisted, hnone⟩ | hmarked
    · exact ⟨fun _ f hf => by simp [marks_eq_zero hnone f hf], fun _ => hlisted⟩
    · rw [hmarked]
      exact nodup_markedFields hnodup

end Analysis

namespace Model

open Analysis

variable {s : Schema} {m : Model}

/-- In a model of a schema every key lists a field, and none of them twice, but for a primary key
that consists of marks: it lists each field as often as that is marked. -/
theorem keys_list_fields_once (h : Model.ofSchema s = .ok m) :
    ∀ t ∈ m.tables, ∃ declared ∈ s.tables, declared.name = t.name ∧ t.ListsFields declared := by
  intro t ht
  obtain ⟨declared, hdeclared, haccepted⟩ := exists_declared h ht
  have hnodup := (nodup_of_symbols (accepts_of_ofSchema h).symbols).2 declared hdeclared
  exact ⟨declared, hdeclared, by rw [haccepted.table], haccepted.listsFields hnodup⟩

/-- A table with a key of two fields, and one whose only field is marked as primary twice. -/
def twiceMarkedSchema : Schema :=
  let intField (name : String) (constraints : List Constraint) : Fixtures.Field :=
    { name, dataType := .primitive .integer, constraints }
  { name := "s"
    tables := [
      { name := "p"
        fields := [intField "x" [.primaryKey none []],
          intField "y" [.primaryKey none [], .unique none []]] },
      { name := "t"
        fields := [intField "id" [.primaryKey none [], .primaryKey none []]] }] }

theorem ofSchema_twiceMarked : ∃ m, Model.ofSchema twiceMarkedSchema = .ok m ∧
    m.tables.map (fun t => t.keys.map Key.fields) = [[["x", "y"], ["y"]], [["id", "id"]]] := by
  have h : (Model.ofSchema twiceMarkedSchema).toOption.map (fun m =>
      m.tables.map fun t => t.keys.map Key.fields) = some [[["x", "y"], ["y"]],
      [["id", "id"]]] := by
    decide +kernel
  obtain ⟨m, hm, hkeys⟩ := Option.map_eq_some_iff.mp h
  exact ⟨m, toOption_eq_some.mp hm, hkeys⟩

theorem keys_list_fields_once_twiceMarked : ∃ m, Model.ofSchema twiceMarkedSchema = .ok m ∧
    ∀ t ∈ m.tables, ∃ declared ∈ twiceMarkedSchema.tables,
      declared.name = t.name ∧ t.ListsFields declared := by
  obtain ⟨m, hm, -⟩ := ofSchema_twiceMarked
  exact ⟨m, hm, keys_list_fields_once hm⟩

/-- A field that is marked as primary twice is twice in the primary key. -/
theorem twice_marked_is_listed_twice : ∃ m, Model.ofSchema twiceMarkedSchema = .ok m ∧
    ∃ t ∈ m.tables, ∃ k ∈ t.keys, ¬ k.fields.Nodup := by
  obtain ⟨m, hm, hkeys⟩ := ofSchema_twiceMarked
  have hmem : [["id", "id"]] ∈ m.tables.map fun t => t.keys.map Key.fields := by
    simp [hkeys]
  obtain ⟨t, ht, hfields⟩ := List.mem_map.mp hmem
  obtain ⟨k, hk, htwice⟩ := List.mem_map.mp (hfields ▸ List.mem_cons_self : ["id", "id"] ∈ _)
  exact ⟨m, hm, t, ht, k, hk, by simp [htwice]⟩

end Model

end Fixtures
