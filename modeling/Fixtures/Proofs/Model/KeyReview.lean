import Fixtures.Model.Analysis.Key

namespace Fixtures.Analysis

variable {resolve : Resolution} {known : SymbolTable} {s : Schema} {declared : Table}
  {keys : KeyReview} {entry : Option Field × Constraint}
  {entries : List (Option Field × Constraint)}

/-- The primary key that a constraint declares, and whether it is a mark on a field. -/
def declaredPrimary? : Option Field × Constraint → Option (Bool × Model.Key)
  | (owner, .primaryKey name listed) =>
    some (owner.isSome && listed.isEmpty, ⟨name, keyFields owner listed, true⟩)
  | _ => none

def declaredUnique? : Option Field × Constraint → Option Model.Key
  | (owner, .unique name listed) => some ⟨name, keyFields owner listed, false⟩
  | _ => none

def declaredForeign? : Option Field × Constraint → Option ForeignKey
  | (owner, .foreignKey k) => some { k with fields := keyFields owner k.fields }
  | _ => none

structure IsListable (known : SymbolTable) (declared : Table) (fields : List String) : Prop where
  nodup : fields.Nodup
  known : ∀ x ∈ fields, (known.field? declared.name x).isSome

theorem isListable_of_fieldListErrors {what : String} {location : Option Location}
    {seen names : List String}
    (h : fieldListErrors known declared what location seen names = []) :
    IsListable known declared names ∧ ∀ name ∈ names, name ∉ seen := by
  induction names generalizing seen with
  | nil => exact ⟨⟨List.nodup_nil, by simp⟩, by simp⟩
  | cons name names ih =>
    rw [fieldListErrors, List.append_eq_nil_iff] at h
    obtain ⟨hfound, hrest⟩ := h
    obtain ⟨hlist, hseen⟩ := ih hrest
    have hname : name ∉ seen ∧ (known.field? declared.name name).isSome := by
      split at hfound
      · cases hfound
      · next hnew =>
        split at hfound
        · cases hfound
        · next hknown => exact ⟨hnew, by simpa [Option.isSome_iff_ne_none] using hknown⟩
    refine ⟨⟨List.nodup_cons.mpr ⟨fun hmem => ?_, hlist.nodup⟩, ?_⟩, ?_⟩
    · exact hseen name hmem List.mem_cons_self
    · exact List.forall_mem_cons.mpr ⟨hname.2, hlist.known⟩
    · exact List.forall_mem_cons.mpr
        ⟨hname.1, fun other hmem hother => hseen other hmem (List.mem_cons_of_mem _ hother)⟩

theorem isListable_of_listErrors {what : String} {location : Option Location} {names : List String}
    (h : listErrors known declared what location names = []) : IsListable known declared names := by
  unfold listErrors at h
  split at h
  · cases h
  · exact (isListable_of_fieldListErrors h).1

/-- What a constraint without errors makes of the keys so far. -/
inductive Adds (resolve : Resolution) (known : SymbolTable) (s : Schema) (declared : Table)
    (keys : KeyReview) (entry : Option Field × Constraint) : KeyReview → Prop
  | primary {marked : Bool} {key : Model.Key} {second : Diagnostic} :
    declaredPrimary? entry = some (marked, key) → declaredUnique? entry = none →
      declaredForeign? entry = none → IsListable known declared key.fields →
      Adds resolve known s declared keys entry (keys.addPrimary marked key second)
  | unique {key : Model.Key} :
    declaredPrimary? entry = none → declaredUnique? entry = some key →
      declaredForeign? entry = none → IsListable known declared key.fields →
      Adds resolve known s declared keys entry { keys with uniqueKeys := keys.uniqueKeys ++ [key] }
  | foreign {key : ForeignKey} {location : Option Location} :
    declaredPrimary? entry = none → declaredUnique? entry = none →
      declaredForeign? entry = some key → IsListable known declared key.fields →
      targetErrors resolve s declared location key = [] →
      Adds resolve known s declared keys entry { keys with foreignKeys :=
        keys.foreignKeys ++ [key] }
  | other :
    declaredPrimary? entry = none → declaredUnique? entry = none → declaredForeign? entry = none →
      Adds resolve known s declared keys entry keys

@[simp] theorem foreignKeys_addPrimary {marked : Bool} {key : Model.Key} {second : Diagnostic} :
    (keys.addPrimary marked key second).foreignKeys = keys.foreignKeys := by
  unfold KeyReview.addPrimary
  split
  · rfl
  · split <;> rfl

@[simp] theorem uniqueKeys_addPrimary {marked : Bool} {key : Model.Key} {second : Diagnostic} :
    (keys.addPrimary marked key second).uniqueKeys = keys.uniqueKeys := by
  unfold KeyReview.addPrimary
  split
  · rfl
  · split <;> rfl

theorem errors_of_addPrimary {marked : Bool} {key : Model.Key} {second : Diagnostic}
    (h : (keys.addPrimary marked key second).errors = []) : keys.errors = [] := by
  unfold KeyReview.addPrimary at h
  split at h
  · exact h
  · split at h
    · exact h
    · simp at h

/-- Without errors afterwards there were none before, and the constraint adds its key. -/
theorem adds_of_reviewKey (h : (reviewKey resolve known s declared keys entry).errors = []) :
    keys.errors = [] ∧
      Adds resolve known s declared keys entry (reviewKey resolve known s declared keys entry) := by
  obtain ⟨owner, c⟩ := entry
  cases c with
  | primaryKey name listed =>
    simp only [reviewKey] at h ⊢
    split at h
    · next hlist => exact ⟨errors_of_addPrimary h,
        .primary rfl rfl rfl (isListable_of_listErrors hlist)⟩
    · next hlist => exact absurd (List.append_eq_nil_iff.mp h).2 hlist
  | unique name listed =>
    simp only [reviewKey] at h ⊢
    split at h
    · next hlist => exact ⟨h, .unique rfl rfl rfl (isListable_of_listErrors hlist)⟩
    · next hlist => exact absurd (List.append_eq_nil_iff.mp h).2 hlist
  | foreignKey k =>
    simp only [reviewKey] at h ⊢
    split at h
    · next hlist =>
      split at h
      · next htarget => exact ⟨h, .foreign rfl rfl rfl (isListable_of_listErrors hlist) htarget⟩
      · next htarget => exact absurd (List.append_eq_nil_iff.mp h).2 htarget
    · next hlist => exact absurd (List.append_eq_nil_iff.mp h).2 hlist
  | check name expression => exact ⟨h, .other rfl rfl rfl⟩
  | range low high | pattern regex | enum values | length low high =>
    simp only [reviewKey] at h ⊢
    split at h
    · simp at h
    · next howner =>
      rw [if_neg howner]
      exact ⟨h, .other rfl rfl rfl⟩

/-- What every constraint without errors keeps, the review of all constraints of a table keeps. -/
theorem reviewKeys_induction {p : KeyReview → List (Option Field × Constraint) → Prop}
    (h : (reviewKeys resolve known s declared).errors = []) (start : p {} [])
    (step : ∀ keys done entry next, p keys done → next.errors = [] →
      Adds resolve known s declared keys entry next → p next (done ++ [entry])) :
    p (reviewKeys resolve known s declared) declared.allConstraints := by
  have key : ∀ entries keys done, (keys.errors = [] → p keys done) →
      (entries.foldl (reviewKey resolve known s declared) keys).errors = [] →
      p (entries.foldl (reviewKey resolve known s declared) keys) (done ++ entries) := by
    intro entries
    induction entries with
    | nil => exact fun keys done hkeys hnil => by simpa using hkeys hnil
    | cons entry entries ih =>
      intro keys done hkeys hnil
      have hnext : (reviewKey resolve known s declared keys entry).errors = [] →
          p (reviewKey resolve known s declared keys entry) (done ++ [entry]) := by
        intro hnone
        obtain ⟨hbefore, hadds⟩ := adds_of_reviewKey hnone
        exact step keys done entry _ (hkeys hbefore) hnone hadds
      simpa using ih _ _ hnext hnil
  exact key declared.allConstraints {} [] (fun _ => start) h

theorem foreignKeys_of_reviewKeys (h : (reviewKeys resolve known s declared).errors = []) :
    (reviewKeys resolve known s declared).foreignKeys =
      declared.allConstraints.filterMap declaredForeign? := by
  refine reviewKeys_induction (p := fun keys done =>
    keys.foreignKeys = done.filterMap declaredForeign?) h rfl ?_
  intro keys done entry next hkeys _ hadds
  rw [List.filterMap_append, ← hkeys]
  cases hadds with
  | primary _ _ hforeign => simp [hforeign]
  | unique _ _ hforeign => simp [hforeign]
  | foreign _ _ hforeign => simp [hforeign]
  | other _ _ hforeign => simp [hforeign]

structure KeyReview.AreKnown (known : SymbolTable) (declared : Table) (keys : KeyReview) :
    Prop where
  primaryKey : ∀ k, keys.primaryKey = some k →
    ∀ x ∈ k.fields, (known.field? declared.name x).isSome
  uniqueKeys : ∀ k ∈ keys.uniqueKeys, ∀ x ∈ k.fields, (known.field? declared.name x).isSome
  foreignKeys : ∀ k ∈ keys.foreignKeys, ∀ x ∈ k.fields, (known.field? declared.name x).isSome

theorem KeyReview.AreKnown.addPrimary {marked : Bool} {key : Model.Key} {second : Diagnostic}
    (h : keys.AreKnown known declared) (hkey : IsListable known declared key.fields) :
    (keys.addPrimary marked key second).AreKnown known declared := by
  refine ⟨?_, by simpa using h.uniqueKeys, by simpa using h.foreignKeys⟩
  unfold KeyReview.addPrimary
  intro k hk
  split at hk
  · cases hk
    exact hkey.known
  · next taken htaken =>
    split at hk
    · cases hk
      intro x hx
      rcases List.mem_append.mp hx with hx | hx
      · exact h.primaryKey taken htaken x hx
      · exact hkey.known x hx
    · exact h.primaryKey k hk

theorem areKnown_of_reviewKeys (h : (reviewKeys resolve known s declared).errors = []) :
    (reviewKeys resolve known s declared).AreKnown known declared := by
  refine reviewKeys_induction (p := fun keys _ => keys.AreKnown known declared) h
    ⟨nofun, by simp, by simp⟩ ?_
  intro keys done entry next hkeys _ hadds
  cases hadds with
  | primary _ _ _ hlist => exact hkeys.addPrimary hlist
  | unique _ _ _ hlist =>
    refine ⟨hkeys.primaryKey, fun k hk => ?_, hkeys.foreignKeys⟩
    rcases List.mem_append.mp hk with hk | hk
    · exact hkeys.uniqueKeys k hk
    · rw [List.mem_singleton.mp hk]
      exact hlist.known
  | foreign _ _ _ hlist _ =>
    refine ⟨hkeys.primaryKey, hkeys.uniqueKeys, fun k hk => ?_⟩
    rcases List.mem_append.mp hk with hk | hk
    · exact hkeys.foreignKeys k hk
    · rw [List.mem_singleton.mp hk]
      exact hlist.known
  | other => exact hkeys

end Fixtures.Analysis
