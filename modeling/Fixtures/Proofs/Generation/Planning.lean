import Fixtures.Generation.Plan
import Fixtures.Proofs.Outcome
import Fixtures.Proofs.Positions

namespace Fixtures

namespace Model.Table

variable {t : Table} {name : String} {i : Nat} {f : Field}

theorem fieldIndex?_eq_some (h : t.fieldIndex? name = some i) :
    ∃ f, t.fields[i]? = some f ∧ f.name = name ∧ t.field? name = some f := by
  have hfind : t.field? name = (t.fieldIndex? name).bind fun i => t.fields[i]? :=
    List.find?_eq_bind_findIdx?_getElem?
  obtain ⟨hi, hname, -⟩ := List.findIdx?_eq_some_iff_getElem.mp h
  have hget : t.fields[i]? = some t.fields[i] := List.getElem?_eq_getElem hi
  rw [h, Option.bind_some, hget] at hfind
  exact ⟨_, hget, by simpa using hname, hfind⟩

theorem exists_fieldIndex? (h : t.field? name = some f) : ∃ i, t.fieldIndex? name = some i := by
  have hfind : t.field? name = (t.fieldIndex? name).bind fun i => t.fields[i]? :=
    List.find?_eq_bind_findIdx?_getElem?
  rw [h] at hfind
  obtain ⟨i, hi, -⟩ := Option.bind_eq_some_iff.mp hfind.symm
  exact ⟨i, hi⟩

theorem fieldIndex?_of_nodup (hnodup : t.fieldNames.Nodup) (h : t.fields[i]? = some f) :
    t.fieldIndex? f.name = some i := by
  obtain ⟨hi, rfl⟩ := List.getElem?_eq_some_iff.mp h
  refine List.findIdx?_eq_some_iff_getElem.mpr ⟨hi, by simp, fun j hj hname => ?_⟩
  have hne := (List.pairwise_iff_getElem.mp hnodup) j i
    (by simpa [fieldNames] using Nat.lt_trans hj hi)
    (by simpa [fieldNames] using hi) hj
  simp only [fieldNames, List.getElem_map, decide_eq_true_eq] at hne hname
  exact hne hname

end Model.Table

namespace Generation

open TablePlan

variable {t : Model.Table} {k : ForeignKey}

theorem lastIndex?_isSome {α : Type} {p : α → Bool} {as : List α} :
    (lastIndex? p as).isSome = true ↔ ∃ a ∈ as, p a = true := by
  simp [lastIndex?, List.findIdx?_isSome]

theorem getElem?_of_positions {names : List String} {positions : List Nat} {j i : Nat}
    (h : TablePlan.positions t names = .ok positions) (hi : positions[j]? = some i) :
    ∃ name, names[j]? = some name ∧ t.fieldIndex? name = some i := by
  obtain ⟨name, hname, hindex⟩ := getElem?_of_mapM h hi
  refine ⟨name, hname, ?_⟩
  split at hindex
  · next i' hi' => rw [hi', Except.ok.inj hindex]
  · cases hindex

theorem positions_of_getElem? {names : List String} {positions : List Nat} {j : Nat} {name : String}
    (h : TablePlan.positions t names = .ok positions) (hname : names[j]? = some name) :
    ∃ i, positions[j]? = some i ∧ t.fieldIndex? name = some i := by
  obtain ⟨i, hi⟩ := exists_getElem?_of_length (length_of_mapM h) hname
  obtain ⟨name', hname', hindex⟩ := getElem?_of_positions h hi
  rw [hname] at hname'
  cases hname'
  exact ⟨_, hi, hindex⟩

theorem nodup_of_positions {names : List String} {positions : List Nat} (hnodup : names.Nodup)
    (h : TablePlan.positions t names = .ok positions) : positions.Nodup := by
  have hlength := length_of_mapM h
  rw [List.Nodup, List.pairwise_iff_getElem] at hnodup ⊢
  intro j j' hj hj' hlt heq
  obtain ⟨name, hname, hindex⟩ := getElem?_of_positions h (List.getElem?_eq_getElem hj)
  obtain ⟨name', hname', hindex'⟩ := getElem?_of_positions h (List.getElem?_eq_getElem hj')
  obtain ⟨f, hf, rfl, -⟩ := Model.Table.fieldIndex?_eq_some hindex
  obtain ⟨f', hf', rfl, -⟩ := Model.Table.fieldIndex?_eq_some hindex'
  rw [heq, hf'] at hf
  cases hf
  refine hnodup j j' (by omega) (by omega) hlt ?_
  rw [List.getElem?_eq_some_iff] at hname hname'
  exact hname.2.trans hname'.2.symm

structure ForeignKeyPlan.IsOf (t : Model.Table) (k : ForeignKey) (plan : ForeignKeyPlan) :
    Prop where
  fields : TablePlan.positions t k.fields = .ok plan.fields
  targetTable : plan.targetTable = k.targetTable
  targetFields : plan.targetFields = k.targetFields

theorem ForeignKeyPlan.IsOf.mem_fields {plan : ForeignKeyPlan} {name : String} {i : Nat}
    (h : plan.IsOf t k) (hindex : t.fieldIndex? name = some i) :
    i ∈ plan.fields ↔ name ∈ k.fields := by
  constructor
  · intro hi
    obtain ⟨j, hj⟩ := List.getElem?_of_mem hi
    obtain ⟨name', hname', hindex'⟩ := getElem?_of_positions h.fields hj
    obtain ⟨f, hf, rfl, -⟩ := Model.Table.fieldIndex?_eq_some hindex
    obtain ⟨f', hf', rfl, -⟩ := Model.Table.fieldIndex?_eq_some hindex'
    rw [hf] at hf'
    cases hf'
    exact List.mem_of_getElem? hname'
  · intro hname
    obtain ⟨j, hj⟩ := List.getElem?_of_mem hname
    obtain ⟨i', hi', hindex'⟩ := positions_of_getElem? h.fields hj
    rw [hindex] at hindex'
    cases hindex'
    exact List.mem_of_getElem? hi'

theorem isOf_of_planForeignKey {configs : List StrategyConfig} {general : Distribution}
    {plan : ForeignKeyPlan} (h : planForeignKey t configs general k = .ok plan) :
    plan.IsOf t k := by
  rw [planForeignKey, bind_eq_ok] at h
  obtain ⟨fields, hfields, heq⟩ := h
  cases heq
  exact ⟨hfields, rfl, rfl⟩

structure FieldPlan.IsOf (t : Model.Table) (foreignKeys : List ForeignKeyPlan) (i : Nat)
    (f : Model.Field) (plan : FieldPlan) : Prop where
  foreignKey : plan.foreignKey = lastIndex? (fun k => k.fields.contains i) foreignKeys
  nullable : plan.nullable = (f.nullable && plan.foreignKey.isNone &&
    !t.keys.any fun k => k.fields.contains f.name)

theorem isOf_of_planField {foreignKeys : List ForeignKeyPlan} {rate : Float} {i : Nat}
    {f : Model.Field} {config : StrategyConfig} {plan : FieldPlan}
    (h : planField t foreignKeys rate i f config = .ok plan) : plan.IsOf t foreignKeys i f := by
  rw [planField, bind_eq_ok] at h
  obtain ⟨pattern, -, heq⟩ := h
  cases heq
  exact ⟨rfl, rfl⟩

theorem getElem?_planFields {foreignKeys : List ForeignKeyPlan} {rate : Float}
    {entries : List (Model.Field × StrategyConfig)} {index : Nat} {plans : List FieldPlan}
    (h : planFields t foreignKeys rate index entries = .ok plans) :
    plans.length = entries.length ∧ ∀ (j : Nat) plan, plans[j]? = some plan →
      ∃ entry, entries[j]? = some entry ∧
        planField t foreignKeys rate (index + j) entry.1 entry.2 = .ok plan := by
  induction entries generalizing index plans with
  | nil =>
    cases h
    simp
  | cons entry entries ih =>
    simp only [planFields, bind_eq_ok] at h
    obtain ⟨plan, hplan, rest, hrest, heq⟩ := h
    cases heq
    obtain ⟨hlength, hall⟩ := ih hrest
    refine ⟨by simp [hlength], fun j plan' hj => ?_⟩
    cases j with
    | zero =>
      cases hj
      exact ⟨entry, rfl, hplan⟩
    | succ j =>
      obtain ⟨entry', hentry, hplan'⟩ := hall j plan' hj
      exact ⟨entry', hentry, by rwa [Nat.add_right_comm] at hplan'⟩

theorem getElem?_of_planFields {foreignKeys : List ForeignKeyPlan} {rate : Float}
    {entries : List (Model.Field × StrategyConfig)} {index : Nat} {plans : List FieldPlan}
    (h : planFields t foreignKeys rate index entries = .ok plans) :
    plans.length = entries.length ∧ ∀ (j : Nat) plan, plans[j]? = some plan →
      ∃ entry, entries[j]? = some entry ∧ plan.IsOf t foreignKeys (index + j) entry.1 := by
  obtain ⟨hlength, hall⟩ := getElem?_planFields h
  refine ⟨hlength, fun j plan hj => ?_⟩
  obtain ⟨entry, hentry, hplan⟩ := hall j plan hj
  exact ⟨entry, hentry, isOf_of_planField hplan⟩

structure KeyPlan.IsOf (t : Model.Table) (k : Model.Key) (plan : KeyPlan) : Prop where
  fields : TablePlan.positions t k.fields = .ok plan.fields

theorem isOf_of_planKey {k : Model.Key} {plan : KeyPlan} (h : planKey t k = .ok plan) :
    plan.IsOf t k := by
  rw [planKey, bind_eq_ok] at h
  obtain ⟨fields, hfields, heq⟩ := h
  cases heq
  exact ⟨hfields⟩

structure TablePlan.IsOf (t : Model.Table) (plan : TablePlan) : Prop where
  name : plan.name = t.name
  fieldNames : plan.fieldNames = t.fieldNames
  length : plan.fields.length = t.fields.length
  fields : ∀ (i : Nat) f p, t.fields[i]? = some f → plan.fields[i]? = some p →
    p.IsOf t plan.foreignKeys i f
  foreignKeys_length : plan.foreignKeys.length = t.foreignKeys.length
  foreignKeys : ∀ (j : Nat) k p, t.foreignKeys[j]? = some k → plan.foreignKeys[j]? = some p →
    p.IsOf t k
  keys : ∀ k ∈ t.keys, ∃ p ∈ plan.keys, p.IsOf t k

theorem TablePlan.IsOf.exists_foreignKey {plan : TablePlan} {p : ForeignKeyPlan} (h : plan.IsOf t)
    (hp : p ∈ plan.foreignKeys) : ∃ k ∈ t.foreignKeys, p.IsOf t k := by
  obtain ⟨j, hj⟩ := List.getElem?_of_mem hp
  obtain ⟨k, hk⟩ := exists_getElem?_of_length h.foreignKeys_length.symm hj
  exact ⟨k, List.mem_of_getElem? hk, h.foreignKeys j k p hk hj⟩

theorem isOf_of_ofTable {o : Options} {plan : TablePlan} (h : ofTable o t = .ok plan) :
    plan.IsOf t := by
  simp only [ofTable, bind_eq_ok] at h
  obtain ⟨general, -, configs, hconfigs, foreignKeys, hforeign, fields, hfields, keys, hkeys,
    heq⟩ := h
  cases heq
  obtain ⟨hlength, hall⟩ := getElem?_of_planFields hfields
  have hconfigLength := length_of_mapM hconfigs
  refine ⟨rfl, rfl, by simp [hlength, hconfigLength], fun i f p hf hp => ?_,
    length_of_mapM hforeign, fun j k p hk hp => ?_, fun k hk => ?_⟩
  · obtain ⟨entry, hentry, hof⟩ := hall i p hp
    rw [List.getElem?_zip_eq_some, hf] at hentry
    cases hentry.1
    simpa using hof
  · obtain ⟨k', hk', hplan⟩ := getElem?_of_mapM hforeign hp
    rw [hk] at hk'
    cases hk'
    exact isOf_of_planForeignKey hplan
  · obtain ⟨p, hp, hplan⟩ := mem_of_mapM hkeys hk
    exact ⟨p, hp, isOf_of_planKey hplan⟩

theorem exists_key_of_ofTable {o : Options} {plan : TablePlan} {p : KeyPlan}
    (h : ofTable o t = .ok plan) (hp : p ∈ plan.keys) :
    ∃ k ∈ t.keys, p.IsOf t k ∧ p.label = k.label := by
  simp only [ofTable, bind_eq_ok] at h
  obtain ⟨_, -, _, -, _, -, _, -, keys, hkeys, heq⟩ := h
  cases heq
  obtain ⟨k, hk, hplan⟩ := exists_of_mem_mapM hkeys hp
  refine ⟨k, hk, isOf_of_planKey hplan, ?_⟩
  rw [planKey, bind_eq_ok] at hplan
  obtain ⟨fields, -, heq⟩ := hplan
  cases heq
  rfl

/-- Rows of a table: as many as its directive says, or else the options. -/
def rowsOf (o : Options) (t : Model.Table) : Nat :=
  t.directive.count.getD o.defaultCount

theorem count_of_ofTable {o : Options} {plan : TablePlan} (h : ofTable o t = .ok plan) :
    plan.count = rowsOf o t := by
  simp only [ofTable, bind_eq_ok] at h
  obtain ⟨_, -, _, -, _, -, _, -, _, -, heq⟩ := h
  cases heq
  rfl

def IsKeyed (t : Model.Table) (name : String) : Prop :=
  (∃ k ∈ t.foreignKeys, name ∈ k.fields) ∨ ∃ k ∈ t.keys, name ∈ k.fields

/-- A strategy with its options, as the directive of a table has it for the table or for a field. -/
inductive Directs (t : Model.Table) : StrategyKind → OptionMap → Prop
  | table : Directs t t.directive.strategy t.directive.options
  | field {name : String} {own : Model.Override} : override? t name = some own →
      Directs t own.strategy own.options

def IsConfigOf (o : Options) (t : Model.Table) (config : StrategyConfig) : Prop :=
  ∃ kind options, Directs t kind options ∧ StrategyConfig.read kind options o = .ok config

/-- Errors of planning a table: an option that is wrong, an option that is a pattern which texts
cannot be drawn from, or a name of a field that is not there. -/
inductive PlanError (o : Options) (t : Model.Table) : GenerationError → Prop
  | parameter {kind : StrategyKind} {options : OptionMap} {subject : String}
    {fault : ParameterError} :
      Directs t kind options → StrategyConfig.read kind options o = .error fault →
      PlanError o t (.directive (.parameter subject fault))
  | badPattern {config : StrategyConfig} {field source : String} {maxRepeat : Nat}
      {reason : Regex.SampleError} : IsConfigOf o t config →
      config.strategy = .pattern (some source) maxRepeat →
      compilePattern source maxRepeat = .error reason →
      PlanError o t (.directive (.badPattern t.name field source reason))
  | unknownField {name : String} : t.fieldIndex? name = none → IsKeyed t name →
      PlanError o t (.directive (.unknownField t.name name))

section Errors

variable {o : Options} {e : GenerationError}

theorem PlanError.exists_directive (h : PlanError o t e) : ∃ d, e = .directive d := by
  cases h <;> exact ⟨_, rfl⟩

theorem planError_of_positions {names : List String} (hnames : ∀ name ∈ names, IsKeyed t name)
    (h : TablePlan.positions t names = .error e) : PlanError o t e := by
  obtain ⟨name, hname, hfailed⟩ := exists_of_mapM_eq_error h
  split at hfailed
  · cases hfailed
  · next hnone =>
    cases hfailed
    exact .unknownField hnone (hnames name hname)

theorem planError_of_ofDirective {kind : StrategyKind} {options : OptionMap} {subject : String}
    (hdirects : Directs t kind options)
    (h : StrategyConfig.ofDirective kind options o subject = .error e) : PlanError o t e := by
  unfold StrategyConfig.ofDirective at h
  split at h
  · cases h
  · next fault hfault =>
    cases h
    exact .parameter hdirects hfault

theorem isConfigOf_of_ofDirective {kind : StrategyKind} {options : OptionMap} {subject : String}
    {config : StrategyConfig} (hdirects : Directs t kind options)
    (h : StrategyConfig.ofDirective kind options o subject = .ok config) :
    IsConfigOf o t config := by
  unfold StrategyConfig.ofDirective at h
  split at h
  · next config' hread =>
    cases h
    exact ⟨kind, options, hdirects, hread⟩
  · cases h

theorem planError_of_fieldConfig {general : StrategyConfig} {f : Model.Field}
    (h : fieldConfig o t general f = .error e) : PlanError o t e := by
  unfold fieldConfig at h
  split at h
  · next own hown => exact planError_of_ofDirective (.field hown) h
  · cases h

theorem isConfigOf_of_fieldConfig {general config : StrategyConfig} {f : Model.Field}
    (hgeneral : IsConfigOf o t general) (h : fieldConfig o t general f = .ok config) :
    IsConfigOf o t config := by
  unfold fieldConfig at h
  split at h
  · next own hown => exact isConfigOf_of_ofDirective (.field hown) h
  · cases h
    exact hgeneral

/-- A field is planned by its own strategy or that of the table, with the rate of nulls that the
table or the options have in case it has none. -/
theorem exists_planField_of_ofTable {plan : TablePlan} (h : ofTable o t = .ok plan)
    {p : FieldPlan} {f : Model.Field} (hp : (p, f) ∈ plan.fields.zip t.fields) :
    ∃ general config i, IsConfigOf o t general ∧ IsConfigOf o t config ∧
      planField t plan.foreignKeys (general.nullRate.getD o.nullRate) i f config = .ok p := by
  simp only [ofTable, bind_eq_ok] at h
  obtain ⟨general, hgeneral, configs, hconfigs, foreignKeys, -, fields, hfields, keys, -, heq⟩ := h
  cases heq
  have hgeneral := isConfigOf_of_ofDirective .table hgeneral
  obtain ⟨i, hi⟩ := List.getElem?_of_mem hp
  obtain ⟨hpi, hfi⟩ := List.getElem?_zip_eq_some.mp hi
  obtain ⟨entry, hentry, hplan⟩ := (getElem?_planFields hfields).2 i p hpi
  obtain ⟨hfield, hconfig⟩ := List.getElem?_zip_eq_some.mp hentry
  obtain ⟨f', -, hf'⟩ := exists_of_mem_mapM hconfigs (List.mem_of_getElem? hconfig)
  obtain rfl : entry.1 = f := Option.some.inj (hfield.symm.trans hfi)
  exact ⟨general, entry.2, 0 + i, hgeneral, isConfigOf_of_fieldConfig hgeneral hf', hplan⟩

theorem planError_of_planForeignKey {configs : List StrategyConfig} {general : Distribution}
    (hk : k ∈ t.foreignKeys) (h : planForeignKey t configs general k = .error e) :
    PlanError o t e := by
  rcases bind_eq_error.mp h with hpositions | ⟨fields, -, hpure⟩
  · exact planError_of_positions (fun name hname => .inl ⟨k, hk, hname⟩) hpositions
  · cases hpure

theorem planError_of_planKey {k : Model.Key} (hk : k ∈ t.keys) (h : planKey t k = .error e) :
    PlanError o t e := by
  rcases bind_eq_error.mp h with hpositions | ⟨fields, -, hpure⟩
  · exact planError_of_positions (fun name hname => .inr ⟨k, hk, hname⟩) hpositions
  · cases hpure

theorem planError_of_fieldPattern {f : Model.Field} {config : StrategyConfig}
    (hconfig : IsConfigOf o t config) (h : fieldPattern t f config.strategy = .error e) :
    PlanError o t e := by
  unfold fieldPattern at h
  split at h
  · cases h
  · generalize hstrategy : config.strategy = strategy at h
    cases strategy with
    | pattern source maxRepeat =>
      simp only at h
      split at h
      · cases h
      · split at h
        · cases h
        · next hcompile =>
          cases h
          exact .badPattern hconfig hstrategy hcompile
      · cases h
    | faker | random | sequential | default =>
      simp only at h
      split at h <;> simp_all

theorem planError_of_planFields {foreignKeys : List ForeignKeyPlan} {rate : Float}
    {entries : List (Model.Field × StrategyConfig)} {index : Nat}
    (hconfigs : ∀ entry ∈ entries, IsConfigOf o t entry.2)
    (h : planFields t foreignKeys rate index entries = .error e) : PlanError o t e := by
  induction entries generalizing index with
  | nil => cases h
  | cons entry entries ih =>
    obtain ⟨hconfig, hconfigs⟩ := List.forall_mem_cons.mp hconfigs
    rcases bind_eq_error.mp h with hfield | ⟨plan, -, hrest⟩
    · rcases bind_eq_error.mp hfield with hpattern | ⟨pattern, -, hpure⟩
      · exact planError_of_fieldPattern hconfig hpattern
      · cases hpure
    · rcases bind_eq_error.mp hrest with hentries | ⟨plans, -, hpure⟩
      · exact ih hconfigs hentries
      · cases hpure

theorem planError_of_ofTable (h : ofTable o t = .error e) : PlanError o t e := by
  unfold ofTable at h
  rcases bind_eq_error.mp h with hgeneral | ⟨general, hgeneral, h⟩
  · exact planError_of_ofDirective .table hgeneral
  have hgeneral := isConfigOf_of_ofDirective .table hgeneral
  rcases bind_eq_error.mp h with hconfigs | ⟨configs, hconfigs, h⟩
  · obtain ⟨f, -, hf⟩ := exists_of_mapM_eq_error hconfigs
    exact planError_of_fieldConfig hf
  rcases bind_eq_error.mp h with hforeign | ⟨foreignKeys, -, h⟩
  · obtain ⟨k, hk, hfailed⟩ := exists_of_mapM_eq_error hforeign
    exact planError_of_planForeignKey hk hfailed
  rcases bind_eq_error.mp h with hfields | ⟨fields, -, h⟩
  · refine planError_of_planFields (fun entry hentry => ?_) hfields
    obtain ⟨f, -, hf⟩ := exists_of_mem_mapM hconfigs (List.of_mem_zip hentry).2
    exact isConfigOf_of_fieldConfig hgeneral hf
  rcases bind_eq_error.mp h with hkeys | ⟨keys, -, hpure⟩
  · obtain ⟨key, hkey, hfailed⟩ := exists_of_mapM_eq_error hkeys
    exact planError_of_planKey hkey hfailed
  · cases hpure

/-- Tables cannot be planned in an order because one of them is not there or cannot be planned. -/
theorem exists_name_of_ofOrder {m : Model} {order : List String}
    (h : ofOrder o m order = .error e) :
    ∃ name ∈ order, (m.table? name = none ∧ e = .directive (.unknownTable name)) ∨
      ∃ t, m.table? name = some t ∧ PlanError o t e := by
  obtain ⟨name, hname, hfailed⟩ := exists_of_mapM_eq_error h
  refine ⟨name, hname, ?_⟩
  rcases bind_eq_error.mp hfailed with htable | ⟨t, ht, hplan⟩
  · unfold tableOf at htable
    split at htable
    · cases htable
    · next hnone =>
      cases htable
      exact .inl ⟨hnone, rfl⟩
  · unfold tableOf at ht
    split at ht
    · next t' ht' =>
      cases ht
      exact .inr ⟨t, ht', planError_of_ofTable hplan⟩
    · cases ht

theorem exists_directive_of_ofOrder {m : Model} {order : List String}
    (h : ofOrder o m order = .error e) : ∃ d, e = .directive d := by
  obtain ⟨name, -, ⟨-, rfl⟩ | ⟨t, -, hplan⟩⟩ := exists_name_of_ofOrder h
  · exact ⟨_, rfl⟩
  · exact hplan.exists_directive

end Errors

end Generation

end Fixtures
