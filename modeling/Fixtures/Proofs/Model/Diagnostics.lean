import Fixtures.Model.Analysis
import Fixtures.Proofs.Typing.Answers

namespace Fixtures

namespace Diagnostic

variable {location : Option Location} {table field : String} {kind : DiagnosticKind}
    {message : String}
  {d : Diagnostic}

@[simp] theorem table_located : (located location d).table = d.table := rfl

@[simp] theorem table_onField : (onField field d).table = d.table := rfl

@[simp] theorem table_inTable : (inTable table d).table = some table := rfl

@[simp] theorem kind_located : (located location d).kind = d.kind := rfl

@[simp] theorem kind_onField : (onField field d).kind = d.kind := rfl

@[simp] theorem kind_inTable : (inTable table d).kind = d.kind := rfl

@[simp] theorem kind_error : (error kind message).kind = kind := rfl

@[simp] theorem kind_warning : (warning kind message).kind = kind := rfl

end Diagnostic

namespace Analysis

variable {resolve : Resolution} {known : SymbolTable} {s : Schema} {t : Table}
    {ds es : List Diagnostic}

def AreAbout (t : Table) (ds : List Diagnostic) : Prop :=
  ∀ d ∈ ds, d.table = some t.name

theorem areAbout_nil : AreAbout t [] := by
  simp [AreAbout]

theorem areAbout_append : AreAbout t (ds ++ es) ↔ AreAbout t ds ∧ AreAbout t es :=
  List.forall_mem_append

theorem areAbout_singleton {d : Diagnostic} : AreAbout t [d] ↔ d.table = some t.name :=
  List.forall_mem_singleton

theorem areAbout_flatMap {α : Type} {as : List α} {f : α → List Diagnostic}
    (h : ∀ a ∈ as, AreAbout t (f a)) :
    AreAbout t (as.flatMap f) := by
  intro d hd
  obtain ⟨a, ha, hd⟩ := List.mem_flatMap.mp hd
  exact h a ha d hd

theorem areAbout_map {α : Type} {as : List α} {f : α → Diagnostic}
    (h : ∀ a, (f a).table = some t.name) :
    AreAbout t (as.map f) := by
  intro d hd
  obtain ⟨a, -, rfl⟩ := List.mem_map.mp hd
  exact h a

theorem areAbout_reviewField (f : Field) : AreAbout t (reviewField resolve t f).2 := by
  have hundecided : ∀ (p : Bool) (message : String), AreAbout t (if p then [.located f.location <|
      .onField f.name <| .inTable t.name <| .error .constraintWellFormedness message] else []) := by
    intro p message
    cases p <;> simp [AreAbout]
  unfold reviewField
  cases resolve f.dataType with
  | error e => exact areAbout_append.mpr ⟨hundecided _ _, areAbout_singleton.mpr rfl⟩
  | ok r =>
    dsimp only
    cases Domain.build r.terminal (f.constraints.filter Constraint.isOnValue ++ r.constraints) with
    | error e => exact areAbout_append.mpr ⟨hundecided _ _, areAbout_singleton.mpr rfl⟩
    | ok domain => exact areAbout_append.mpr ⟨hundecided _ _, areAbout_map fun _ => rfl⟩

theorem areAbout_reviewCheck (location : Option Location) (name : Option String) (source : String) :
    AreAbout t (reviewCheck t location name source).2 := by
  unfold reviewCheck
  split
  · exact areAbout_singleton.mpr rfl
  · dsimp only
    split
    · exact areAbout_nil
    · exact areAbout_map fun _ => rfl

theorem areAbout_reviewChecks : AreAbout t ((reviewChecks t).flatMap Prod.snd) := by
  refine areAbout_flatMap fun review hreview => ?_
  obtain ⟨⟨owner, c⟩, -, hc⟩ := List.mem_filterMap.mp hreview
  dsimp only at hc
  split at hc
  · cases hc
    exact areAbout_reviewCheck _ _ _
  · cases hc

theorem areAbout_reviewDirective : AreAbout t (reviewDirective t).2 := by
  unfold reviewDirective
  split
  · exact areAbout_nil
  · next d _ =>
    refine areAbout_append.mpr ⟨areAbout_append.mpr ⟨?_, areAbout_flatMap fun review hreview => ?_⟩,
      ?_⟩
    · split
      · exact areAbout_singleton.mpr rfl
      · exact areAbout_nil
    · obtain ⟨⟨field, o⟩, -, rfl⟩ := List.mem_map.mp hreview
      unfold reviewOverride
      dsimp only
      split
      · exact areAbout_singleton.mpr rfl
      · split
        · exact areAbout_nil
        · exact areAbout_singleton.mpr rfl
    · split
      · exact areAbout_nil
      · split
        · exact areAbout_nil
        · exact areAbout_singleton.mpr rfl

theorem areAbout_fieldListErrors (what : String) (location : Option Location)
    (seen names : List String) :
    AreAbout t (fieldListErrors known t what location seen names) := by
  induction names generalizing seen with
  | nil => exact areAbout_nil
  | cons name names ih =>
    refine areAbout_append.mpr ⟨?_, ih _⟩
    split
    · exact areAbout_singleton.mpr rfl
    · split
      · exact areAbout_singleton.mpr rfl
      · exact areAbout_nil

theorem areAbout_listErrors (what : String) (location : Option Location) (names : List String) :
    AreAbout t (listErrors known t what location names) := by
  unfold listErrors
  split
  · exact areAbout_singleton.mpr rfl
  · exact areAbout_fieldListErrors _ _ _ _

theorem areAbout_pairErrors (target : Table) (location : Option Location) (field remote : String) :
    AreAbout t (pairErrors resolve t target location field remote) := by
  unfold pairErrors
  dsimp only
  split
  · exact areAbout_singleton.mpr rfl
  · split
    · split
      · exact areAbout_nil
      · exact areAbout_singleton.mpr rfl
    · exact areAbout_nil

theorem areAbout_targetErrors (location : Option Location) (k : ForeignKey) :
    AreAbout t (targetErrors resolve s t location k) := by
  unfold targetErrors
  dsimp only
  split
  · exact areAbout_singleton.mpr rfl
  · next target _ =>
    split
    · exact areAbout_singleton.mpr rfl
    · have hpairs : AreAbout t ((k.fields.zip k.targetFields).flatMap fun pair =>
          pairErrors resolve t target location pair.1 pair.2) :=
        areAbout_flatMap fun pair _ => areAbout_pairErrors target location pair.1 pair.2
      split
      · split
        · exact areAbout_nil
        · exact areAbout_singleton.mpr rfl
      · exact hpairs

theorem areAbout_addPrimary {keys : KeyReview} {marked : Bool} {key : Model.Key}
    {second : Diagnostic} (h : AreAbout t keys.errors) (hsecond : second.table = some t.name) :
    AreAbout t (keys.addPrimary marked key second).errors := by
  unfold KeyReview.addPrimary
  split
  · exact h
  · split
    · exact h
    · exact areAbout_append.mpr ⟨h, areAbout_singleton.mpr hsecond⟩

theorem areAbout_reviewKey {keys : KeyReview} (h : AreAbout t keys.errors)
    (entry : Option Field × Constraint) :
    AreAbout t (reviewKey resolve known s t keys entry).errors := by
  obtain ⟨owner, c⟩ := entry
  unfold reviewKey
  dsimp only
  split
  · split
    · exact areAbout_addPrimary h rfl
    · exact areAbout_append.mpr ⟨h, areAbout_listErrors _ _ _⟩
  · split
    · exact h
    · exact areAbout_append.mpr ⟨h, areAbout_listErrors _ _ _⟩
  · split
    · split
      · exact h
      · exact areAbout_append.mpr ⟨h, areAbout_targetErrors _ _⟩
    · exact areAbout_append.mpr ⟨h, areAbout_listErrors _ _ _⟩
  · exact h
  all_goals
    split
    · exact areAbout_append.mpr ⟨h, areAbout_singleton.mpr rfl⟩
    · exact h

theorem areAbout_reviewKeys : AreAbout t (reviewKeys resolve known s t).errors :=
  List.foldlRecOn (motive :=
    fun keys : KeyReview => AreAbout t keys.errors) t.allConstraints _ areAbout_nil
    fun _ h entry _ => areAbout_reviewKey h entry

theorem areAbout_reviewTable : AreAbout t (reviewTable resolve known s t).2 := by
  unfold reviewTable
  dsimp only
  split
  · exact areAbout_nil
  · refine areAbout_append.mpr ⟨areAbout_append.mpr ⟨areAbout_append.mpr ⟨areAbout_flatMap ?_,
      areAbout_reviewKeys⟩, areAbout_reviewChecks⟩, areAbout_reviewDirective⟩
    intro review hreview
    obtain ⟨f, -, rfl⟩ := List.mem_map.mp hreview
    exact areAbout_reviewField f

def AreDuplicates (ds : List Diagnostic) : Prop :=
  ∀ d ∈ ds, d.kind = .duplicateName

theorem areDuplicates_nil : AreDuplicates [] := by
  simp [AreDuplicates]

theorem AreDuplicates.concat {d : Diagnostic} (h : AreDuplicates ds)
    (hd : d.kind = .duplicateName) :
    AreDuplicates (ds ++ [d]) :=
  List.forall_mem_append.mpr ⟨h, List.forall_mem_singleton.mpr hd⟩

theorem areDuplicates_registry : AreDuplicates (registry s).2 := by
  refine List.foldlRecOn (motive :=
    fun types : Reviewed TypeRegistry => AreDuplicates types.2) s.typeDecls _
    areDuplicates_nil fun types h d _ => ?_
  unfold defineType
  split
  · exact h
  · next e he =>
    rw [(TypeRegistry.define_eq_error.mp he).2]
    exact h.concat rfl

theorem areDuplicates_declareField {known : Reviewed SymbolTable} (h : AreDuplicates known.2)
    (f : Field) :
    AreDuplicates (declareField t known f).2 := by
  unfold declareField
  split
  · exact h
  · exact h.concat rfl

theorem areDuplicates_symbols : AreDuplicates (symbols s).2 := by
  refine List.foldlRecOn (motive :=
    fun known : Reviewed SymbolTable => AreDuplicates known.2) s.tables _
    areDuplicates_nil fun known h t _ => ?_
  unfold declareTable
  split
  · exact List.foldlRecOn (motive :=
      fun known : Reviewed SymbolTable => AreDuplicates known.2) t.fields _ h
      fun _ h f _ => areDuplicates_declareField h f
  · exact h.concat rfl

end Analysis

end Fixtures
