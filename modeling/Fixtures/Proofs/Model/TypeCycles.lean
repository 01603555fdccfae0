import Mathlib.Data.Set.Card
import Fixtures.Proofs.Model.Diagnostics
import Fixtures.Proofs.Model.Review
import Fixtures.Proofs.Text.Names
import Fixtures.Proofs.Typing.Walk

namespace Fixtures

open Text

def Diagnostic.isTypeCycle (d : Diagnostic) : Bool :=
  d.kind = .circularType && d.table.isNone

namespace Analysis

variable {resolve : Resolution} {done : List TypeDecl} {cycles : List (List String)}
    {review : TypeReview}
  {d : TypeDecl} {s : Schema} {name : String}

/-- What a review has reported after some types: different cycles, each of which one of the types
runs into, and all that they run into. -/
structure Reports (resolve : Resolution) (done : List TypeDecl) (cycles : List (List String))
    (review : TypeReview) : Prop where
  known : review.cycles = cycles.map nameSet
  different : review.cycles.Nodup
  met : ∀ c ∈ cycles, ∃ d ∈ done, resolve (.custom d.name) = .error (.circularType c)
  all : ∀ d ∈ done, ∀ c, resolve (.custom d.name) = .error (.circularType c) →
    nameSet c ∈ review.cycles
  messages : (review.errors.filter Diagnostic.isTypeCycle).map Diagnostic.message =
    cycles.map fun c => (SchemaError.circularType c).message

/-- A type without a cycle that is not reported yet leaves what is reported as it is. -/
theorem Reports.concat {types : List (String × ResolvedType)} {more : List Diagnostic}
    (h : Reports resolve done cycles review)
    (hcycle : ∀ c, resolve (.custom d.name) = .error (.circularType c) → nameSet c ∈ review.cycles)
    (hmore : ∀ e ∈ more, e.isTypeCycle = false) :
    Reports resolve (done ++ [d]) cycles ⟨types, review.cycles, review.errors ++ more⟩ := by
  refine ⟨h.known, h.different, fun c hc => ?_, fun e he c hc => ?_, ?_⟩
  · obtain ⟨e, he, hresolve⟩ := h.met c hc
    exact ⟨e, List.mem_append_left _ he, hresolve⟩
  · rcases List.mem_append.mp he with he | he
    · exact h.all e he c hc
    · rw [List.mem_singleton.mp he] at hc
      exact hcycle c hc
  · have hquiet : more.filter Diagnostic.isTypeCycle = [] :=
      List.filter_eq_nil_iff.mpr fun e he => by simp [hmore e he]
    rw [List.filter_append, hquiet, List.append_nil]
    exact h.messages

theorem Reports.concat_cycle {c : List String} {e : Diagnostic}
    (h : Reports resolve done cycles review)
    (hcycle : resolve (.custom d.name) = .error (.circularType c))
    (hnew : nameSet c ∉ review.cycles)
    (he : e.isTypeCycle = true) (hmessage : e.message = (SchemaError.circularType c).message) :
    Reports resolve (done ++ [d]) (cycles ++ [c])
      ⟨review.types, review.cycles ++ [nameSet c], review.errors ++ [e]⟩ := by
  refine ⟨?_, ?_, ?_, fun b hb c' hc' => ?_, ?_⟩
  · rw [List.map_append, ← h.known]
    rfl
  · exact List.nodup_append.mpr ⟨h.different, by simp, fun x hx y hy heq => hnew (by simp_all)⟩
  · refine List.forall_mem_append.mpr ⟨fun c' hc' => ?_,
      List.forall_mem_singleton.mpr ⟨d, by simp, hcycle⟩⟩
    obtain ⟨b, hb, hresolve⟩ := h.met c' hc'
    exact ⟨b, List.mem_append_left _ hb, hresolve⟩
  · rcases List.mem_append.mp hb with hb | hb
    · exact List.mem_append_left _ (h.all b hb c' hc')
    · rw [List.mem_singleton.mp hb, hcycle] at hc'
      cases hc'
      simp
  · rw [List.filter_append, List.map_append, h.messages, List.map_append]
    simp [he, hmessage]

theorem isTypeCycle_of_mem_typeErrors {r : ResolvedType} {e : Diagnostic} (h : e ∈ typeErrors d r) :
    e.isTypeCycle = false := by
  obtain ⟨found, hfound, rfl⟩ := List.mem_map.mp h
  have hkind : found.kind = .constraintWellFormedness := by
    rcases List.mem_append.mp hfound with hfound | hfound
    · obtain ⟨c, -, rfl⟩ := List.mem_map.mp hfound
      rfl
    · split at hfound
      · cases hfound
      · rw [List.mem_singleton.mp hfound]
        rfl
  simp [Diagnostic.isTypeCycle, hkind]

theorem exists_reports_reviewType (h : Reports resolve done cycles review) (d : TypeDecl) :
    ∃ cycles, Reports resolve (done ++ [d]) cycles (reviewType resolve review d) := by
  unfold reviewType
  split
  · next r hr =>
    exact ⟨cycles, h.concat (fun c hc => by cases hr.symm.trans hc) fun e =>
      isTypeCycle_of_mem_typeErrors⟩
  · next c hc =>
    split
    · next hknown =>
      have hmet : ∀ c', resolve (.custom d.name) = .error (.circularType c') →
          nameSet c' ∈ review.cycles := by
        intro c' hc'
        cases hc.symm.trans hc'
        exact hknown
      have hsame : Reports resolve (done ++ [d]) cycles ⟨review.types, review.cycles,
          review.errors ++ []⟩ :=
        h.concat hmet nofun
      rw [List.append_nil] at hsame
      exact ⟨cycles, hsame⟩
    · next hnew => exact ⟨_, h.concat_cycle hc hnew rfl rfl⟩
  · next e hother he =>
    refine ⟨cycles, h.concat (fun c hc => ?_) (List.forall_mem_singleton.mpr ?_)⟩
    · cases he.symm.trans hc
      exact absurd rfl (hother c)
    · cases e <;> first | rfl | exact absurd rfl (hother _)

theorem exists_reports_reviewTypes (resolve : Resolution) (definitions : List TypeDecl) :
    ∃ cycles, Reports resolve definitions cycles (reviewTypes resolve definitions) := by
  induction definitions using List.reverseRecOn with
  | nil => exact ⟨[], rfl, .nil, nofun, nofun, rfl⟩
  | append_singleton done d ih =>
    obtain ⟨cycles, h⟩ := ih
    rw [reviewTypes, List.foldl_concat]
    exact exists_reports_reviewType h d

theorem definition?_append {r : TypeRegistry} (name : String) :
    ({ r with definitions := r.definitions ++ [d] } : TypeRegistry).definition? name =
      (r.definition? name).or (if d.name = name then some d else none) := by
  rw [TypeRegistry.definition?, List.find?_append, List.find?_singleton]
  simp [TypeRegistry.definition?]

theorem isSome_definition?_iff {r : TypeRegistry} :
    (r.definition? name).isSome = r.contains name := by
  rw [TypeRegistry.definition?, TypeRegistry.contains, List.isSome_find?]

theorem definition?_defineType (types : Reviewed TypeRegistry) (d : TypeDecl) (name : String) :
    (defineType types d).1.definition? name = (types.1.definition? name).or
      (if d.name = name ∧ Primitive.ofName? name = none then some d else none) := by
  unfold defineType TypeRegistry.define
  by_cases htaken : ((Primitive.ofName? d.name).isSome || types.1.contains d.name) = true
  · simp only [if_pos htaken]
    split
    · next hnew =>
      obtain ⟨rfl, hname⟩ := hnew
      rw [hname, Option.isSome_none, Bool.false_or, ← isSome_definition?_iff] at htaken
      rw [Option.or_of_isSome htaken]
    · rw [Option.or_none]
  · simp only [if_neg htaken, definition?_append]
    simp only [Bool.or_eq_true, not_or, Option.not_isSome_iff_eq_none] at htaken
    by_cases hname : d.name = name
    · subst hname
      simp [htaken.1]
    · simp [hname]

/-- Of the declarations of a name the first is registered, unless it is the name of a built-in
type. -/
theorem definition?_registry (s : Schema) (name : String) : (registry s).1.definition? name =
    if Primitive.ofName? name = none then s.typeDecls.find? fun d => d.name = name else none := by
  have hfold : ∀ (ds : List TypeDecl) (types : Reviewed TypeRegistry),
      (ds.foldl defineType types).1.definition? name = (types.1.definition? name).or
        (if Primitive.ofName? name = none then ds.find? fun d => d.name = name else none) := by
    intro ds
    induction ds with
    | nil => simp
    | cons d ds ih =>
      intro types
      rw [List.foldl_cons, ih, definition?_defineType, Option.or_assoc, List.find?_cons]
      refine congrArg (Option.or _) ?_
      by_cases hbuiltIn : Primitive.ofName? name = none <;> by_cases hname : d.name = name <;>
        simp [hbuiltIn, hname]
  have hempty : TypeRegistry.empty.definition? name = none := rfl
  rw [registry, hfold, hempty, Option.none_or]

theorem coherent_registry (s : Schema) : (registry s).1.Coherent := by
  refine List.foldlRecOn (motive :=
    fun types : Reviewed TypeRegistry => types.1.Coherent) s.typeDecls _
    TypeRegistry.coherent_empty fun types h d _ => ?_
  unfold defineType
  split
  · next r hr => exact TypeRegistry.coherent_define h hr
  · exact h

theorem resolution_eq_error_iff {c : List String} :
    s.resolution (.custom name) = .error (.circularType c) ↔
      (registry s).1.ComesTo name (.error (.circularType c)) := by
  have hcomes := TypeRegistry.comesTo_resolveName (coherent_registry s) name
  exact ⟨fun h => h ▸ hcomes, fun h => hcomes.unique h⟩

theorem Reports.mem_iff (h : Reports s.resolution (registry s).1.definitions cycles review)
    (c : Cycle String) :
    c ∈ cycles.map Cycle.ofList ↔ (registry s).1.IsCycle c := by
  have hcycle : ∀ names ∈ cycles, (registry s).1.IsCycle names := fun names hnames => by
    obtain ⟨d, -, hd⟩ := h.met names hnames
    exact (resolution_eq_error_iff.mp hd).isCycle
  rw [List.mem_map]
  constructor
  · rintro ⟨names, hnames, rfl⟩
    exact hcycle names hnames
  · intro hc
    obtain ⟨name, hname⟩ := hc.exists_mem
    obtain ⟨d, hd, rfl⟩ := hc.exists_definition hname
    obtain ⟨names, rfl, hcomes⟩ := hc.exists_comesTo hname
    have hset := h.all d hd names (resolution_eq_error_iff.mpr hcomes)
    rw [h.known, List.mem_map] at hset
    obtain ⟨names', hnames', hset⟩ := hset
    have hmem : d.name ∈ names' := (nameSet_eq_iff.mp hset d.name).mpr (Cycle.mem_coe_iff.mp hname)
    exact ⟨names', hnames', (hcycle names' hnames').eq_of_mem hc (Cycle.mem_coe_iff.mpr hmem) hname⟩

theorem Reports.nodup (h : Reports resolve done cycles review) :
    (cycles.map Cycle.ofList).Nodup := by
  have hsets := h.different
  rw [h.known, List.Nodup, List.pairwise_map] at hsets
  rw [List.Nodup, List.pairwise_map]
  refine hsets.imp fun hne hsame => hne (nameSet_eq_iff.mpr fun x => ?_)
  exact (Cycle.coe_eq_coe.mp hsame).mem_iff

end Analysis

open Analysis

def Schema.diagnostics (s : Schema) : List Diagnostic :=
  match Model.ofSchema s with
  | .ok m => m.warnings
  | .error found => found.toList

theorem isTypeCycle_of_mem_warnings {tables : List Model.Table} {used : List String}
    {types : List TypeDecl}
    {d : Diagnostic} (h : d ∈ tables.filterMap keyWarning? ++ types.flatMap (typeWarnings used)) :
    d.isTypeCycle = false := by
  have hkind : d.kind ≠ .circularType := by
    rcases List.mem_append.mp h with h | h
    · obtain ⟨t, -, ht⟩ := List.mem_filterMap.mp h
      unfold keyWarning? at ht
      split at ht <;> cases ht
      simp
    · obtain ⟨decl, -, h⟩ := List.mem_flatMap.mp h
      obtain ⟨found, hfound, rfl⟩ := List.mem_map.mp h
      rcases List.mem_append.mp hfound with hfound | hfound <;> split at hfound <;> simp_all
  simp [Diagnostic.isTypeCycle, hkind]

def typeReview (s : Schema) : TypeReview :=
  reviewTypes s.resolution (registry s).1.definitions

/-- What is found about each table, of which only the first of a name is looked at. -/
def tableReviews (s : Schema) : List (Reviewed (Option Model.Table)) :=
  (firstOfEach Table.name [] s.tables).map (reviewTable s.resolution (symbols s).1 s)

theorem exists_warnings (s : Schema) : ∃ tables used, s.diagnostics =
    (registry s).2 ++ (symbols s).2 ++ (typeReview s).errors ++ (tableReviews s).flatMap Prod.snd ++
      (List.filterMap keyWarning? tables ++ s.typeDecls.flatMap (typeWarnings used)) := by
  refine ⟨(tableReviews s).filterMap Prod.fst,
    usedTypes (typeReview s) (registry s).1.definitions (firstOfEach Table.name [] s.tables), ?_⟩
  unfold Schema.diagnostics Model.ofSchema
  dsimp only
  split
  · next m hm =>
    split at hm
    · next hnone =>
      cases hm
      rw [List.isEmpty_iff] at hnone
      exact (congrArg (· ++ _) hnone).symm
    · cases hm
  · next found hfound =>
    split at hfound
    · cases hfound
    · cases hfound
      rfl

theorem filter_diagnostics (s : Schema) :
    s.diagnostics.filter Diagnostic.isTypeCycle =
      (typeReview s).errors.filter Diagnostic.isTypeCycle := by
  have hnone : ∀ ds : List Diagnostic, (∀ d ∈ ds, d.isTypeCycle = false) →
      ds.filter Diagnostic.isTypeCycle = [] :=
    fun ds h => List.filter_eq_nil_iff.mpr fun d hd => by simp [h d hd]
  have hnames : ∀ ds, AreDuplicates ds → ds.filter Diagnostic.isTypeCycle = [] := fun ds h =>
    hnone ds fun d hd => by simp [Diagnostic.isTypeCycle, h d hd]
  have htables : ((tableReviews s).flatMap Prod.snd).filter Diagnostic.isTypeCycle = [] := by
    refine hnone _ fun d hd => ?_
    obtain ⟨review, hreview, hd⟩ := List.mem_flatMap.mp hd
    obtain ⟨t, -, rfl⟩ := List.mem_map.mp hreview
    simp [Diagnostic.isTypeCycle, areAbout_reviewTable d hd]
  obtain ⟨tables, used, hall⟩ := exists_warnings s
  rw [hall]
  simp only [List.filter_append, hnames _ areDuplicates_registry, hnames _ areDuplicates_symbols,
    htables, List.nil_append, List.append_nil]
  rw [← List.filter_append, hnone _ fun d => isTypeCycle_of_mem_warnings, List.append_nil]

/-- Each cycle of the graph from registered types to their bases is reported once, with its names,
and nothing else is reported as one. Of the declarations of a name the first one counts, unless it
is the name of a built-in type. -/
theorem reports_each_type_cycle_once (s : Schema) :
    ∃ cycles : List (List String),
      (s.diagnostics.filter Diagnostic.isTypeCycle).map Diagnostic.message =
        cycles.map (fun c => (SchemaError.circularType c).message) ∧
      (cycles.map Cycle.ofList).Nodup ∧
      (∀ c, c ∈ cycles.map Cycle.ofList ↔ (registry s).1.IsCycle c) ∧
      (s.diagnostics.filter Diagnostic.isTypeCycle).length = {c | (registry s).1.IsCycle c}.ncard ∧
      ∀ name, (registry s).1.definition? name =
        if Primitive.ofName? name = none then s.typeDecls.find? fun d =>
          d.name = name else none := by
  obtain ⟨cycles, h⟩ := exists_reports_reviewTypes s.resolution (registry s).1.definitions
  have hmessages : ((typeReview s).errors.filter Diagnostic.isTypeCycle).map Diagnostic.message =
      cycles.map fun c => (SchemaError.circularType c).message := h.messages
  rw [← filter_diagnostics] at hmessages
  refine ⟨cycles, hmessages, h.nodup, h.mem_iff, ?_, definition?_registry s⟩
  have hset : {c | (registry s).1.IsCycle c} =
      ((cycles.map Cycle.ofList).toFinset : Set (Cycle String)) := by
    ext c
    simp [← h.mem_iff c]
  have hlength := congrArg List.length hmessages
  rw [List.length_map, List.length_map] at hlength
  rw [hset, Set.ncard_coe_finset, List.toFinset_card_of_nodup h.nodup, List.length_map, hlength]

example :
    let decl (name base : String) : TypeDecl := { name, base := .custom base }
    let s : Schema := { name := "s", types :=
      [decl "d" "a", decl "a" "b", decl "c" "c", decl "b" "a", decl "a" "d"] }
    (s.diagnostics.filter Diagnostic.isTypeCycle).map Diagnostic.message =
      ["circular type reference: a -> b -> a", "circular type reference: c -> c"] := by
  decide +kernel

end Fixtures
