import Fixtures.Model.Analysis.Type

namespace Fixtures

namespace SymbolTable

variable {s next : SymbolTable} {table field name : String} {location : Option Location}

def fieldNamesOf (s : SymbolTable) (table : String) : List String :=
  match s.table? table with
  | some t => t.fieldNames
  | none => []

theorem declareTable_eq_ok (h : s.declareTable name location = .ok next) :
    name ∉ s.tableNames ∧ next.tableNames = s.tableNames ++ [name] ∧
      next.fieldNamesOf name = [] := by
  unfold declareTable at h
  split at h
  · cases h
  · next hnone =>
    cases h
    refine ⟨?_, by simp [tableNames], ?_⟩
    · simpa [table?, tableNames] using hnone
    · simp only [table?] at hnone
      simp [fieldNamesOf, table?, hnone, TableSymbol.fieldNames]

theorem declareField?_eq_some (h : s.declareField? table field location = some next) :
    field ∉ s.fieldNamesOf table ∧ next.tableNames = s.tableNames ∧
      next.fieldNamesOf table = s.fieldNamesOf table ++ [field] := by
  unfold declareField? at h
  split at h
  · cases h
  · next t ht =>
    have hname : t.name = table := by simpa using List.find?_some ht
    subst hname
    split at h
    · cases h
    · next hnew =>
      cases h
      have hkeep : ∀ u : TableSymbol, (if u.name = t.name then
          ({ t with fields := t.fields ++ [⟨field, t.fields.length, location⟩] } : TableSymbol)
          else u).name = u.name := by
        intro u
        by_cases hu : u.name = t.name <;> simp [hu]
      have hfind : s.tables.find? (fun u => u.name = t.name) = some t := ht
      refine ⟨?_, ?_, ?_⟩
      · simpa [fieldNamesOf, ht, TableSymbol.fieldNames, TableSymbol.hasField,
          TableSymbol.field?] using hnew
      · simp only [tableNames, List.map_map]
        exact List.map_congr_left fun u _ => hkeep u
      · simp only [fieldNamesOf, table?, List.find?_map, Function.comp_def, hkeep, hfind,
          Option.map_some, ↓reduceIte, TableSymbol.fieldNames, List.map_append, List.map_cons,
          List.map_nil]

end SymbolTable

namespace Analysis

variable {s : Reviewed SymbolTable} {t : Table}

theorem foldl_declareField {fields : List Field}
    (h : (fields.foldl (declareField t) s).2 = []) :
    s.2 = [] ∧ (fields.map Field.name).Nodup ∧
      (∀ f ∈ fields, f.name ∉ s.1.fieldNamesOf t.name) ∧
      (fields.foldl (declareField t) s).1.tableNames = s.1.tableNames := by
  induction fields generalizing s with
  | nil => exact ⟨h, List.nodup_nil, by simp, rfl⟩
  | cons f fields ih =>
    rw [List.foldl_cons] at h ⊢
    obtain ⟨herrors, hnodup, hnew, hnames⟩ := ih h
    unfold declareField at herrors hnew hnames
    cases hdeclare : s.1.declareField? t.name f.name f.location with
    | none => simp [hdeclare] at herrors
    | some declared =>
      obtain ⟨hfresh, htables, hfields⟩ := SymbolTable.declareField?_eq_some hdeclare
      simp only [hdeclare] at herrors hnew hnames
      refine ⟨herrors, ?_, ?_, ?_⟩
      · rw [List.map_cons, List.nodup_cons]
        refine ⟨fun hmem => ?_, hnodup⟩
        obtain ⟨g, hg, hname⟩ := List.mem_map.mp hmem
        exact hnew g hg (by simp [hfields, hname])
      · refine List.forall_mem_cons.mpr ⟨hfresh, fun g hg hmem => hnew g hg ?_⟩
        simp [hfields, hmem]
      · unfold declareField
        simp only [hdeclare]
        exact hnames.trans htables

theorem declareTable_of_nil (h : (declareTable s t).2 = []) :
    s.2 = [] ∧ (t.fields.map Field.name).Nodup ∧ t.name ∉ s.1.tableNames ∧
      (declareTable s t).1.tableNames = s.1.tableNames ++ [t.name] := by
  unfold declareTable at h ⊢
  cases hdeclare : s.1.declareTable t.name t.location with
  | error taken => simp [hdeclare] at h
  | ok declared =>
    obtain ⟨hfresh, hnames, -⟩ := SymbolTable.declareTable_eq_ok hdeclare
    simp only [hdeclare] at h ⊢
    obtain ⟨herrors, hnodup, -, htables⟩ := foldl_declareField h
    exact ⟨herrors, hnodup, hfresh, htables.trans hnames⟩

theorem foldl_declareTable {tables : List Table} (h : (tables.foldl declareTable s).2 = []) :
    s.2 = [] ∧ (tables.map Table.name).Nodup ∧ (∀ t ∈ tables, t.name ∉ s.1.tableNames) ∧
      ∀ t ∈ tables, (t.fields.map Field.name).Nodup := by
  induction tables generalizing s with
  | nil => exact ⟨h, List.nodup_nil, by simp, by simp⟩
  | cons t tables ih =>
    rw [List.foldl_cons] at h
    obtain ⟨herrors, hnodup, hnew, hfields⟩ := ih h
    obtain ⟨hstart, hown, hfresh, hnames⟩ := declareTable_of_nil herrors
    refine ⟨hstart, ?_, ?_, List.forall_mem_cons.mpr ⟨hown, hfields⟩⟩
    · rw [List.map_cons, List.nodup_cons]
      refine ⟨fun hmem => ?_, hnodup⟩
      obtain ⟨u, hu, hname⟩ := List.mem_map.mp hmem
      exact hnew u hu (by simp [hnames, hname])
    · refine List.forall_mem_cons.mpr ⟨hfresh, fun u hu hmem => hnew u hu ?_⟩
      simp [hnames, hmem]

/-- Without errors all names of tables are different, and so are those of the fields of a table. -/
theorem nodup_of_symbols {schema : Schema} (h : (symbols schema).2 = []) :
    (schema.tables.map Table.name).Nodup ∧
      ∀ t ∈ schema.tables, (t.fields.map Field.name).Nodup :=
  ⟨(foldl_declareTable h).2.1, (foldl_declareTable h).2.2.2⟩

theorem firstOfEach_of_nodup {α : Type} {name : α → String} {as : List α} {seen : List String}
    (hnodup : (as.map name).Nodup) (hseen : ∀ a ∈ as, name a ∉ seen) :
    firstOfEach name seen as = as := by
  induction as generalizing seen with
  | nil => rfl
  | cons a as ih =>
    rw [List.map_cons, List.nodup_cons] at hnodup
    obtain ⟨hfresh, hnodup⟩ := hnodup
    rw [firstOfEach, if_neg (hseen a List.mem_cons_self), ih hnodup]
    intro b hb hmem
    rcases List.mem_cons.mp hmem with heq | hmem
    · exact hfresh (heq ▸ List.mem_map_of_mem hb)
    · exact hseen b (List.mem_cons_of_mem _ hb) hmem

theorem firstOfEach_nil_of_nodup {α : Type} {name : α → String} {as : List α}
    (h : (as.map name).Nodup) : firstOfEach name [] as = as :=
  firstOfEach_of_nodup h (by simp)

end Analysis

namespace SymbolTable

variable {s next : SymbolTable} {table other field name : String} {location : Option Location}

theorem isSome_field?_iff :
    (s.field? table field).isSome ↔ field ∈ s.fieldNamesOf table := by
  unfold field? fieldNamesOf
  cases s.table? table with
  | none => simp
  | some t => simp [TableSymbol.field?, TableSymbol.fieldNames]

theorem fieldNamesOf_eq_of_map {tables : List TableSymbol} {f : TableSymbol → TableSymbol}
    (hname : ∀ u, (f u).name = u.name) (hkeep : ∀ u, u.name = other → f u = u) :
    fieldNamesOf { tables := tables.map f } other = fieldNamesOf { tables } other := by
  have hfind : (tables.map f).find? (fun u => u.name = other) =
      tables.find? fun u => u.name = other := by
    rw [List.find?_map]
    simp only [Function.comp_def, hname]
    cases hu : tables.find? fun u => u.name = other with
    | none => rfl
    | some u => rw [Option.map_some, hkeep u (by simpa using List.find?_some hu)]
  simp only [fieldNamesOf, table?, hfind]

theorem fieldNamesOf_declareField? (h : s.declareField? table field location = some next)
    (hne : other ≠ table) : next.fieldNamesOf other = s.fieldNamesOf other := by
  unfold declareField? at h
  split at h
  · cases h
  · next t ht =>
    have hname : t.name = table := by simpa using List.find?_some ht
    split at h
    · cases h
    · cases h
      refine fieldNamesOf_eq_of_map (fun u => ?_) fun u hu => ?_
      · by_cases h : u.name = table <;> simp [h, hname]
      · rw [if_neg (hu ▸ hne)]

theorem fieldNamesOf_declareTable (h : s.declareTable name location = .ok next)
    (hne : other ≠ name) : next.fieldNamesOf other = s.fieldNamesOf other := by
  unfold declareTable at h
  split at h
  · cases h
  · cases h
    simp [fieldNamesOf, table?, List.find?_append, hne.symm]

end SymbolTable

namespace Analysis

variable {s : Reviewed SymbolTable} {t : Table} {f : Field} {schema : Schema} {x : String}

theorem declareField_of_nil (h : (declareField t s f).2 = []) :
    (declareField t s f).1.fieldNamesOf t.name = s.1.fieldNamesOf t.name ++ [f.name] ∧
      ∀ other ≠ t.name, (declareField t s f).1.fieldNamesOf other = s.1.fieldNamesOf other := by
  unfold declareField at h ⊢
  cases hdeclare : s.1.declareField? t.name f.name f.location with
  | none => simp [hdeclare] at h
  | some next =>
    exact ⟨(SymbolTable.declareField?_eq_some hdeclare).2.2,
      fun other hne => SymbolTable.fieldNamesOf_declareField? hdeclare hne⟩

theorem fieldNamesOf_foldl_declareField {fields : List Field}
    (h : (fields.foldl (declareField t) s).2 = []) :
    (fields.foldl (declareField t) s).1.fieldNamesOf t.name =
        s.1.fieldNamesOf t.name ++ fields.map Field.name ∧
      ∀ other ≠ t.name,
        (fields.foldl (declareField t) s).1.fieldNamesOf other = s.1.fieldNamesOf other := by
  induction fields generalizing s with
  | nil => simp
  | cons f fields ih =>
    rw [List.foldl_cons] at h ⊢
    obtain ⟨hown, hothers⟩ := declareField_of_nil (foldl_declareField h).1
    obtain ⟨hrest, hkept⟩ := ih h
    refine ⟨?_, fun other hne => (hkept other hne).trans (hothers other hne)⟩
    rw [hrest, hown, List.map_cons, List.append_assoc, List.singleton_append]

theorem fieldNamesOf_declareTable (h : (declareTable s t).2 = []) :
    (declareTable s t).1.fieldNamesOf t.name = t.fields.map Field.name ∧
      ∀ other ≠ t.name, (declareTable s t).1.fieldNamesOf other = s.1.fieldNamesOf other := by
  unfold declareTable at h ⊢
  cases hdeclare : s.1.declareTable t.name t.location with
  | error taken => simp [hdeclare] at h
  | ok next =>
    simp only [hdeclare] at h ⊢
    obtain ⟨-, -, hempty⟩ := SymbolTable.declareTable_eq_ok hdeclare
    obtain ⟨hown, hothers⟩ := fieldNamesOf_foldl_declareField h
    refine ⟨by rw [hown, hempty, List.nil_append], fun other hne => ?_⟩
    rw [hothers other hne, SymbolTable.fieldNamesOf_declareTable hdeclare hne]

theorem fieldNamesOf_foldl_declareTable {tables : List Table}
    (h : (tables.foldl declareTable s).2 = []) :
    (∀ t ∈ tables,
      (tables.foldl declareTable s).1.fieldNamesOf t.name = t.fields.map Field.name) ∧
    ∀ other ∉ tables.map Table.name,
      (tables.foldl declareTable s).1.fieldNamesOf other = s.1.fieldNamesOf other := by
  induction tables generalizing s with
  | nil => simp
  | cons t tables ih =>
    have hnodup := (foldl_declareTable h).2.1
    rw [List.map_cons, List.nodup_cons] at hnodup
    rw [List.foldl_cons] at h ⊢
    obtain ⟨hown, hothers⟩ := fieldNamesOf_declareTable (foldl_declareTable h).1
    obtain ⟨hrest, hkept⟩ := ih h
    refine ⟨List.forall_mem_cons.mpr ⟨(hkept t.name hnodup.1).trans hown, hrest⟩,
      fun other hnew => ?_⟩
    rw [List.map_cons, List.mem_cons, not_or] at hnew
    exact (hkept other hnew.2).trans (hothers other hnew.1)

theorem isSome_field?_symbols (h : (symbols schema).2 = []) (ht : t ∈ schema.tables) :
    ((symbols schema).1.field? t.name x).isSome ↔ x ∈ t.fields.map Field.name := by
  rw [SymbolTable.isSome_field?_iff, ← (fieldNamesOf_foldl_declareTable h).1 t ht]
  rfl

end Analysis

end Fixtures
