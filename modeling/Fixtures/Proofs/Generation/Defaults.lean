import Fixtures.Generation.Run
import Fixtures.Proofs.Generation.CompleteRun
import Fixtures.Proofs.Generation.ErrorSources
import Fixtures.Proofs.Generation.Lookups
import Fixtures.Proofs.Generation.Planning
import Fixtures.Proofs.Model.Defaults

namespace Fixtures

namespace Generation

variable {p : String → Bool} {t : Model.Table} {o : Options}

namespace TablePlan

theorem positions_withoutDefaults (names : List String) :
    positions (t.withoutDefaults p) names = positions t names := by
  simp only [positions, Model.Table.fieldIndex?_withoutDefaults, Model.Table.name_withoutDefaults]

theorem fieldConfig_withoutDefaults (general : StrategyConfig) (f : Model.Field) :
    fieldConfig o (t.withoutDefaults p) general (f.withoutDefault p) =
      fieldConfig o t general f := by
  simp only [fieldConfig, Model.Field.name_withoutDefault, Model.Table.name_withoutDefaults]
  rfl

theorem ownDistribution?_withoutDefaults (configs : List StrategyConfig) (fields : List Nat) :
    ownDistribution? (t.withoutDefaults p) configs fields = ownDistribution? t configs fields := by
  unfold ownDistribution?
  congr 1
  funext i
  simp only [Model.Table.withoutDefaults, List.getElem?_map]
  cases t.fields[i]? with
  | none => rfl
  | some f =>
    cases configs[i]? with
    | none => rfl
    | some config =>
      simp only [Option.map_some, Model.Field.name_withoutDefault]
      rfl

theorem planForeignKey_withoutDefaults (configs : List StrategyConfig) (general : Distribution)
    (k : ForeignKey) :
    planForeignKey (t.withoutDefaults p) configs general k =
      planForeignKey t configs general k := by
  simp only [planForeignKey, positions_withoutDefaults, ownDistribution?_withoutDefaults]

theorem planField_withoutDefaults (foreignKeys : List ForeignKeyPlan) (rate : Float) (index : Nat)
    (f : Model.Field) (config : StrategyConfig) :
    planField (t.withoutDefaults p) foreignKeys rate index (f.withoutDefault p) config =
      planField t foreignKeys rate index f config := by
  have hpattern : fieldPattern (t.withoutDefaults p) (f.withoutDefault p) config.strategy =
      fieldPattern t f config.strategy := by
    unfold fieldPattern
    simp only [Model.Field.name_withoutDefault, Model.Field.terminal_withoutDefault,
      Model.Field.domain_withoutDefault, Model.Table.name_withoutDefaults]
  simp only [planField, hpattern, canDeriveKeys, Model.Field.name_withoutDefault,
    Model.Field.terminal_withoutDefault, Model.Field.domain_withoutDefault,
    Model.Field.nullable_withoutDefault, Model.Table.keys_withoutDefaults]

theorem planFields_withoutDefaults (foreignKeys : List ForeignKeyPlan) (rate : Float) (index : Nat)
    (entries : List (Model.Field × StrategyConfig)) :
    planFields (t.withoutDefaults p) foreignKeys rate index
        (entries.map fun entry => (entry.1.withoutDefault p, entry.2)) =
      planFields t foreignKeys rate index entries := by
  induction entries generalizing index with
  | nil => rfl
  | cons entry entries ih => simp only [List.map_cons, planFields, planField_withoutDefaults, ih]

theorem ofTable_withoutDefaults : ofTable o (t.withoutDefaults p) = ofTable o t := by
  have hconfigs : ∀ general, (t.withoutDefaults p).fields.mapM
    (fieldConfig o (t.withoutDefaults p) general) =
      t.fields.mapM (fieldConfig o t general) := by
    intro general
    simp only [Model.Table.withoutDefaults, List.mapM_map]
    congr 1
    funext f
    exact fieldConfig_withoutDefaults general f
  have hfields : ∀ foreignKeys rate configs, planFields (t.withoutDefaults p) foreignKeys rate 0
      ((t.withoutDefaults p).fields.zip configs) =
          planFields t foreignKeys rate 0 (t.fields.zip configs) := by
    intro foreignKeys rate configs
    have hzip : (t.withoutDefaults p).fields.zip configs =
        (t.fields.zip configs).map fun entry => (entry.1.withoutDefault p, entry.2) :=
      List.zip_map_left
    rw [hzip, planFields_withoutDefaults]
  have hkeys : ∀ k, planKey (t.withoutDefaults p) k = planKey t k := by
    intro k
    simp only [planKey, positions_withoutDefaults]
  have hforeign : ∀ configs general, planForeignKey (t.withoutDefaults p) configs general =
      planForeignKey t configs general :=
    fun configs general => funext (planForeignKey_withoutDefaults configs general)
  simp only [ofTable, hconfigs, hfields, hforeign, funext hkeys, Model.Table.name_withoutDefaults,
    Model.Table.keys_withoutDefaults, Model.Table.foreignKeys_withoutDefaults,
    Model.Table.directive_withoutDefaults, Model.Table.fieldNames_withoutDefaults]

end TablePlan

namespace ValueRequest

variable {q : ValueRequest} {v : Value}

def withoutDefault (p : String → Bool) (q : ValueRequest) : ValueRequest :=
  { q with field := q.field.withoutDefault p }

/-- The strategy asks for the default of the field, and no key follows from the number of the
row. -/
def TakesDefault (q : ValueRequest) : Prop :=
  q.plan.strategy = .default ∧ q.derivedValue? = none

instance (s : Strategy) : Decidable (s = .default) :=
  match s with
  | .default => isTrue rfl
  | .faker .. | .random | .sequential .. | .pattern .. => isFalse Strategy.noConfusion

instance : Decidable q.TakesDefault := inferInstanceAs (Decidable (_ ∧ _))

@[simp] theorem domain_withoutDefault : (q.withoutDefault p).field.domain = q.field.domain :=
  Model.Field.domain_withoutDefault p q.field

theorem derivedValue?_withoutDefault : (q.withoutDefault p).derivedValue? = q.derivedValue? := by
  simp only [derivedValue?, withoutDefault, Model.Field.domain_withoutDefault,
    Model.Field.name_withoutDefault]

theorem typedValue_withoutDefault (synthetic : Bool) :
    (q.withoutDefault p).typedValue synthetic = q.typedValue synthetic := by
  have helement : ∀ item length,
      (q.withoutDefault p).element item length synthetic = q.element item length synthetic := by
    intro item length
    simp only [element, strategyValue, allowedValue, withoutDefault,
      Model.Field.domain_withoutDefault, Model.Field.name_withoutDefault]
    rfl
  simp only [typedValue, helement, domain_withoutDefault]

theorem defaultValue?_of_ne (h : q.plan.strategy ≠ .default) : q.defaultValue? = none := by
  unfold defaultValue?
  split
  · next hdefault => exact absurd hdefault h
  · rfl

theorem search_withoutDefault (h : q.plan.strategy ≠ .default) (synthetic attempts : Nat)
    (violated : String) :
    (q.withoutDefault p).search synthetic attempts violated =
      q.search synthetic attempts violated := by
  have hcandidate : ∀ synthetic, (q.withoutDefault p).candidate synthetic =
      q.candidate synthetic := by
    intro synthetic
    have hnone : (q.withoutDefault p).defaultValue? = none := defaultValue?_of_ne h
    simp only [candidate, derivedValue?_withoutDefault, hnone, defaultValue?_of_ne h,
      typedValue_withoutDefault]
  induction attempts generalizing synthetic violated with
  | zero => rfl
  | succ attempts ih =>
    simp only [search, hcandidate, ih, domain_withoutDefault]

theorem value_succ (h : q.candidate true = pure v) (hadmits : q.field.domain.refusal? v = none)
    (attempts : Nat) : q.value (attempts + 1) = pure (.ok v) := by
  have hsynthetic : decide (0 < (attempts + 1 + 1) / 2) = true := decide_eq_true (by omega)
  simp only [value, search, hsynthetic, h, pure_bind, hadmits]

theorem value_of_derivedValue? (h : q.derivedValue? = some v) (attempts : Nat) :
    q.value (attempts + 1) = pure (.ok v) := by
  refine value_succ (by simp only [candidate, if_true, h]) ?_ attempts
  unfold derivedValue? at h
  split at h
  · simpa [Domain.admits] using (Option.filter_eq_some_iff.mp h).2
  · cases h

/-- A default that the strategy asks for is the value if none follows from the number of the row. -/
theorem value_of_takesDefault (h : q.TakesDefault) (hv : q.field.default = some v)
    (hadmits : q.field.domain.refusal? v = none) (attempts : Nat) :
    q.value (attempts + 1) = pure (.ok v) :=
  value_succ (by simp only [candidate, if_true, h.2, defaultValue?, h.1, hv]) hadmits attempts

theorem value_withoutDefault (h : ¬ q.TakesDefault) (attempts : Nat) :
    (q.withoutDefault p).value attempts = q.value attempts := by
  by_cases hstrategy : q.plan.strategy = .default
  · cases hderived : q.derivedValue? with
    | none => exact absurd ⟨hstrategy, hderived⟩ h
    | some v =>
      -- Later attempts could take the default, but the first one is not refused.
      cases attempts with
      | zero => rfl
      | succ attempts =>
        rw [value_of_derivedValue? hderived, value_of_derivedValue?]
        rw [derivedValue?_withoutDefault, hderived]
  · exact search_withoutDefault hstrategy _ _ _

end ValueRequest

namespace TableJob

variable {job : TableJob} {row : Nat}

def withoutDefaults (p : String → Bool) (job : TableJob) : TableJob :=
  { job with table := job.table.withoutDefaults p }

@[simp] theorem plan_withoutDefaults : (job.withoutDefaults p).plan = job.plan := rfl

@[simp] theorem options_withoutDefaults : (job.withoutDefaults p).options = job.options := rfl

def request (job : TableJob) (row attempt : Nat) (plan : FieldPlan) (field : Model.Field) :
    ValueRequest :=
  ⟨field, plan, row, job.ordinal row attempt, job.options.baseDate⟩

/-- No value in a table is the default of a field in a set, at whatever attempt at a row. -/
def Spares (job : TableJob) (p : String → Bool) : Prop :=
  ∀ entry ∈ job.plan.fields.zip job.table.fields, p entry.2.name = true →
  entry.1.foreignKey = none →
    ∀ row < job.plan.count, ∀ attempt < job.options.maxAttemptsRow + 1, 1 ≤ attempt →
      ¬ (job.request row attempt entry.1 entry.2).TakesDefault

instance : Decidable (job.Spares p) := inferInstanceAs (Decidable (∀ _ ∈ _, _))

theorem refusedMember?_withoutDefaults (k : ForeignKeyPlan) (tuple : List Value) :
    (job.withoutDefaults p).refusedMember? k tuple = job.refusedMember? k tuple := by
  have hdomain : ∀ i, (job.withoutDefaults p).domainAt i = job.domainAt i := by
    intro i
    simp [domainAt, withoutDefaults, Model.Table.withoutDefaults, Function.comp_def]
  simp only [refusedMember?, hdomain]

theorem parentKey_withoutDefaults (k : ForeignKeyPlan) (attempts : Nat) (last : Nat × String) :
    (job.withoutDefaults p).parentKey k attempts last = job.parentKey k attempts last := by
  induction attempts generalizing last with
  | zero => rfl
  | succ attempts ih =>
    simp only [parentKey, refusedMember?_withoutDefaults, ih]
    rfl

theorem foreignValues_withoutDefaults (values : List Value) (ks : List ForeignKeyPlan) :
    (job.withoutDefaults p).foreignValues values ks = job.foreignValues values ks := by
  induction ks generalizing values with
  | nil => rfl
  | cons k ks ih =>
    simp only [foreignValues, parentKey_withoutDefaults, ih]
    rfl

theorem fieldValue_withoutDefault {attempt : Nat} {plan : FieldPlan} {field : Model.Field}
    {current : Value}
    (h : p field.name = true → plan.foreignKey = none →
      ¬ (job.request row attempt plan field).TakesDefault) :
    (job.withoutDefaults p).fieldValue row attempt plan (field.withoutDefault p) current =
      job.fieldValue row attempt plan field current := by
  have hjob : (job.withoutDefaults p).fieldValue row attempt plan (field.withoutDefault p) current =
      job.fieldValue row attempt plan (field.withoutDefault p) current := rfl
  rw [hjob]
  -- A field outside the set keeps its default, and then the two are the same.
  by_cases hp : p field.name = true
  · unfold fieldValue
    split
    · rfl
    · next hkey =>
      have hvalue := ValueRequest.value_withoutDefault (p := p) (h hp (by simpa using hkey))
        job.options.maxAttemptsValue
      simp only [request, ValueRequest.withoutDefault] at hvalue
      simp only [hvalue, Model.Field.name_withoutDefault]
  · rw [Model.Field.withoutDefault, if_neg hp]

theorem fieldValues_withoutDefaults {attempt : Nat}
    {entries : List (FieldPlan × Model.Field × Value)}
    (h : ∀ entry ∈ entries, p entry.2.1.name = true → entry.1.foreignKey = none →
      ¬ (job.request row attempt entry.1 entry.2.1).TakesDefault) :
    (job.withoutDefaults p).fieldValues row attempt
        (entries.map fun entry => (entry.1, entry.2.1.withoutDefault p, entry.2.2)) =
      job.fieldValues row attempt entries := by
  induction entries with
  | nil => rfl
  | cons entry entries ih =>
    obtain ⟨hentry, hentries⟩ := List.forall_mem_cons.mp h
    simp only [List.map_cons, fieldValues, fieldValue_withoutDefault hentry, ih hentries]

theorem rowValues_withoutDefaults (h : job.Spares p) (hrow : row < job.plan.count) {attempt : Nat}
    (hfirst : 1 ≤ attempt) (hlast : attempt ≤ job.options.maxAttemptsRow) :
    (job.withoutDefaults p).rowValues row attempt = job.rowValues row attempt := by
  have hvalues : ∀ foreign, (job.withoutDefaults p).fieldValues row attempt
      (job.plan.fields.zip ((job.table.withoutDefaults p).fields.zip foreign)) =
        job.fieldValues row attempt (job.plan.fields.zip (job.table.fields.zip foreign)) := by
    intro foreign
    have hzip : job.plan.fields.zip ((job.table.withoutDefaults p).fields.zip foreign) =
        (job.plan.fields.zip (job.table.fields.zip foreign)).map
          fun entry => (entry.1, entry.2.1.withoutDefault p, entry.2.2) := by
      simp only [Model.Table.withoutDefaults, List.zip_map_left, List.zip_map_right]
      rfl
    rw [hzip]
    refine fieldValues_withoutDefaults fun entry hentry hp hkey => ?_
    exact h _ (mem_zip_of_mem_zip_zip hentry) hp hkey row hrow attempt (by omega) hfirst
  have hdraw : (job.withoutDefaults p).drawValues row attempt = job.drawValues row attempt := by
    unfold drawValues
    simp only [foreignValues_withoutDefaults]
    exact congrArg _ (funext hvalues)
  simp only [rowValues, hdraw]
  rfl

variable {taken : KeyTracker}

theorem refusal?_withoutDefaults (values : List Value) :
    (job.withoutDefaults p).refusal? taken values = job.refusal? taken values := by
  have hlookup : (job.withoutDefaults p).lookup values = job.lookup values := by
    funext field
    simp only [lookup, withoutDefaults, Model.Table.fieldIndex?_withoutDefaults]
  have hcheck : (job.withoutDefaults p).failedCheck? values = job.failedCheck? values := by
    simp only [failedCheck?, hlookup]
    rfl
  simp only [refusal?, hcheck]
  rfl

theorem search_withoutDefaults (h : job.Spares p) (hrow : row < job.plan.count)
    {first attempts attempt : Nat} {refused : GenerationError} (hfirst : 1 ≤ attempt)
    (hlast : ∀ k < attempts, attempt + k ≤ job.options.maxAttemptsRow) :
    (job.withoutDefaults p).search taken row first attempts attempt refused =
      job.search taken row first attempts attempt refused := by
  induction attempts generalizing attempt refused with
  | zero => rfl
  | succ attempts ih =>
    have hnext : ∀ k < attempts, attempt + 1 + k ≤ job.options.maxAttemptsRow := by
      intro k hk
      have := hlast (k + 1) (by omega)
      omega
    simp only [search, rowValues_withoutDefaults h hrow hfirst (hlast 0 (by omega)),
      refusal?_withoutDefaults, ih (by omega) hnext]

theorem sampleRow_withoutDefaults (h : job.Spares p) (hrow : row < job.plan.count) {first : Nat}
    (hfirst : 1 ≤ first) :
    (job.withoutDefaults p).sampleRow taken row first = job.sampleRow taken row first :=
  search_withoutDefaults h hrow hfirst fun k (hk : k < job.options.maxAttemptsRow + 1 - first) => by
    omega

theorem commitRow_eq (job : TableJob) (sampled : SampledRow) : job.commitRow taken row sampled =
    match taken.insert sampled.values with
    | .ok next => .ok (sampled, next)
    | .error key =>
      if job.options.maxAttemptsRow ≤ sampled.attempt then .error (job.keyError key)
      else
        match job.sampleRow taken row (sampled.attempt + 1) with
        | .error e => .error e
        | .ok again =>
          job.commitRow taken row { again with retries :=
              again.retries + (sampled.retries + 1) } := by
  rw [commitRow]
  cases taken.insert sampled.values with
  | ok next => rfl
  | error key =>
    by_cases hlast : job.options.maxAttemptsRow ≤ sampled.attempt
    · simp only [dif_pos hlast, if_pos hlast]
    · simp only [dif_neg hlast, if_neg hlast]
      split <;> simp_all

theorem commitRow_withoutDefaults (h : job.Spares p) (hrow : row < job.plan.count)
    (sampled : SampledRow) :
    (job.withoutDefaults p).commitRow taken row sampled = job.commitRow taken row sampled := by
  have hsample : ∀ attempt, (job.withoutDefaults p).sampleRow taken row (attempt + 1) =
      job.sampleRow taken row (attempt + 1) :=
    fun attempt => sampleRow_withoutDefaults h hrow (by omega)
  fun_induction job.commitRow taken row sampled with
  | case1 sampled next hinsert => rw [commitRow_eq, hinsert]
  | case2 sampled key hinsert hlast =>
    simp only [commitRow_eq _ sampled, hinsert, options_withoutDefaults, hlast, if_true]
    rfl
  | case3 sampled key hinsert hmore e again =>
    simp only [commitRow_eq _ sampled, hinsert, options_withoutDefaults, hmore, if_false, hsample,
      again]
  | case4 sampled key hinsert hmore next again ih =>
    simp only [commitRow_eq _ sampled, hinsert, options_withoutDefaults, hmore, if_false, hsample,
      again, ih]

theorem commitRows_withoutDefaults (h : job.Spares p)
    {sampled : List (Nat × Except GenerationError SampledRow)}
    (hrows : ∀ s ∈ sampled, s.1 < job.plan.count) :
    (job.withoutDefaults p).commitRows taken sampled = job.commitRows taken sampled := by
  induction sampled generalizing taken with
  | nil => rfl
  | cons s sampled ih =>
    obtain ⟨hs, hsampled⟩ := List.forall_mem_cons.mp hrows
    simp only [commitRows, commitRow_withoutDefaults h hs, ih hsampled]

theorem generateBatch_withoutDefaults (h : job.Spares p) {rows : List Nat}
    (hrows : ∀ row ∈ rows, row < job.plan.count) :
    (job.withoutDefaults p).generateBatch taken rows = job.generateBatch taken rows := by
  have hsampled : (rows.map fun row => (row, (job.withoutDefaults p).sampleRow taken row 1)) =
      rows.map fun row => (row, job.sampleRow taken row 1) :=
    List.map_congr_left fun row hrow => by
      rw [sampleRow_withoutDefaults h (hrows row hrow) (Nat.le_refl 1)]
  have hcommit : (job.withoutDefaults p).commitRows taken (rows.map fun row =>
    (row, job.sampleRow taken row 1)) =
      job.commitRows taken (rows.map fun row => (row, job.sampleRow taken row 1)) := by
    refine commitRows_withoutDefaults h fun s hs => ?_
    obtain ⟨row, hrow, rfl⟩ := List.mem_map.mp hs
    exact hrows row hrow
  simp only [generateBatch, hsampled, hcommit]

theorem batchSize_withoutDefaults : (job.withoutDefaults p).batchSize = job.batchSize := by
  have hbytes : ∀ f : Model.Field, Batch.fieldBytes (f.withoutDefault p) = Batch.fieldBytes f := by
    intro f
    simp only [Batch.fieldBytes, Model.Field.domain_withoutDefault,
      Model.Field.terminal_withoutDefault]
  have hrecord : Batch.recordBytes (job.table.withoutDefaults p) = Batch.recordBytes job.table := by
    simp only [Batch.recordBytes, Model.Table.withoutDefaults, List.foldl_map, hbytes]
  simp only [batchSize, Batch.size, withoutDefaults, hrecord]

theorem generateFrom_withoutDefaults (h : job.Spares p) (start : Nat) :
    (job.withoutDefaults p).generateFrom start taken = job.generateFrom start taken := by
  have hbatch : ∀ start taken, (job.withoutDefaults p).generateBatch taken
    (job.batchFrom start).rows =
      job.generateBatch taken (job.batchFrom start).rows :=
    fun start taken => generateBatch_withoutDefaults h fun row => lt_count_of_mem_batchFrom
  have hspan : ∀ start, (job.withoutDefaults p).batchFrom start = job.batchFrom start := by
    intro start
    simp only [batchFrom, batchSize_withoutDefaults]
    rfl
  fun_induction job.generateFrom start taken with
  | case1 start taken hlt span e hfailed =>
    rw [generateFrom, plan_withoutDefaults, if_pos hlt]
    simp only [hspan, (hbatch start taken).trans hfailed]
  | case2 start taken hlt span rows next hcommitted rest ih =>
    rw [generateFrom, plan_withoutDefaults, if_pos hlt]
    simp only [hspan, (hbatch start taken).trans hcommitted]
    rw [ih]
    rfl
  | case3 start taken hend =>
    unfold generateFrom
    exact if_neg hend

theorem generate_withoutDefaults (h : job.Spares p) :
    (job.withoutDefaults p).generate = job.generate := by
  simp only [generate, generateFrom_withoutDefaults h, reportOf, batchSize_withoutDefaults]
  rfl

end TableJob

section Runs

variable {q : FieldSet} {s : Schema} {m : Model} {order : List String} {run : Run} {seed : UInt64}

theorem tableOf_withoutDefaults (q : FieldSet) (m : Model) (name : String) :
    TablePlan.tableOf (m.withoutDefaults q) name =
      (TablePlan.tableOf m name).map fun t => t.withoutDefaults (q t.name) := by
  have htable : (m.withoutDefaults q).table? name =
      (m.table? name).map fun t => t.withoutDefaults (q t.name) := by
    simp only [Model.table?, Model.withoutDefaults, List.find?_map]
    rfl
  unfold TablePlan.tableOf
  rw [htable]
  cases m.table? name <;> rfl

theorem ofOrder_withoutDefaults (q : FieldSet) (o : Options) (m : Model) (order : List String) :
    TablePlan.ofOrder o (m.withoutDefaults q) order = TablePlan.ofOrder o m order := by
  unfold TablePlan.ofOrder
  congr 1
  funext name
  rw [tableOf_withoutDefaults]
  cases TablePlan.tableOf m name with
  | error e => rfl
  | ok t => exact TablePlan.ofTable_withoutDefaults

theorem registerRows_withoutDefaults (p : String → Bool) (references : References) (t : Model.Table)
    (plans : List TablePlan) (rows : List SampledRow) :
    registerRows references (t.withoutDefaults p) plans rows =
      registerRows references t plans rows := by
  have hproject : ∀ fields values, project (t.withoutDefaults p) fields values =
      project t fields values := by
    intro fields values
    unfold project
    congr 2
    funext name
    exact t.fieldIndex?_withoutDefaults p name
  simp only [registerRows, hproject]
  rfl

def SparesDefaults (o : Options) (m : Model) (q : FieldSet) : Prop :=
  ∀ job : TableJob, job.options = o → job.table ∈ m.tables →
  TablePlan.ofTable o job.table = .ok job.plan →
    job.Spares (q job.table.name)

theorem generateTables_withoutDefaults (h : SparesDefaults run.options run.model q)
    {plans : List TablePlan}
    (hplans : ∀ plan ∈ plans, ∃ t, run.model.table? plan.name = some t ∧
      TablePlan.ofTable run.options t = .ok plan) (references : References) (report : Report) :
    { run with model := run.model.withoutDefaults q }.generateTables references report plans =
      run.generateTables references report plans := by
  induction plans generalizing references report with
  | nil => rfl
  | cons plan plans ih =>
    obtain ⟨⟨t, ht, hof⟩, hplans⟩ := List.forall_mem_cons.mp hplans
    have htable : TablePlan.tableOf run.model plan.name = .ok t := by
      rw [TablePlan.tableOf, ht]
    have hjob : ({ run with model :=
      run.model.withoutDefaults q }.job (t.withoutDefaults (q t.name)) plan
        references).generate = (run.job t plan references).generate :=
      TableJob.generate_withoutDefaults
      (h (run.job t plan references) rfl (List.mem_of_find?_eq_some ht) hof)
    simp only [Run.generateTables, tableOf_withoutDefaults, htable, Except.map, hjob,
      registerRows_withoutDefaults, ih hplans]

theorem ofModel_withoutDefaults (q : FieldSet) (o : Options) (m : Model) (order : List String)
    (seed : UInt64) :
    Run.ofModel o (m.withoutDefaults q) order seed = (Run.ofModel o m order seed).map
      fun run => { run with model := run.model.withoutDefaults q } := by
  unfold Run.ofModel
  cases o.checked with
  | error e => rfl
  | ok o =>
    simp only [Bind.bind, Except.bind, ofOrder_withoutDefaults]
    cases TablePlan.ofOrder o m order <;> rfl

theorem generateModel_withoutDefaults (h : SparesDefaults o m q) (order : List String)
    (seed : UInt64) :
    generateModel o (m.withoutDefaults q) order seed = generateModel o m order seed := by
  have hwithout := ofModel_withoutDefaults q o m order seed
  cases hrun : Run.ofModel o m order seed with
  | error e =>
    rw [hrun] at hwithout
    rw [generateModel_of_error hrun, generateModel_of_error hwithout]
  | ok run =>
    rw [hrun] at hwithout
    rw [generateModel_of_ok hrun, generateModel_of_ok hwithout]
    obtain ⟨o', ho, hrest⟩ := bind_eq_ok.mp hrun
    obtain rfl := eq_of_checked ho
    obtain ⟨plans, hplans, heq⟩ := bind_eq_ok.mp hrest
    cases heq
    exact generateTables_withoutDefaults h
      (fun plan hplan => exists_table_of_ofOrder hplans hplan) _ _

theorem run_withoutDefaults (hcompile : s.compile = .ok (m, order)) (h : SparesDefaults o m q)
    (seed : UInt64) :
    Generation.run (s.withoutDefaults q) o seed = Generation.run s o seed := by
  cases ho : o.checked with
  | error e => simp only [Generation.run, ho, Bind.bind, Except.bind]
  | ok o' =>
    obtain rfl := eq_of_checked ho
    simp only [Generation.run, ho, hcompile, Schema.compile_withoutDefaults q hcompile,
      generateModel_withoutDefaults h, Bind.bind, Except.bind]

/-- Keys of a field follow from the numbers of rows if it is in a key and in no foreign key, and if
neither an enum nor a pattern nor a sequence is where its values come from. -/
theorem rowKeyed_iff {t : Model.Table} {plan : TablePlan} (h : TablePlan.ofTable o t = .ok plan)
    {p : FieldPlan} {f : Model.Field} (hp : (p, f) ∈ plan.fields.zip t.fields) :
    p.rowKeyed = true ↔ (∃ k ∈ t.keys, f.name ∈ k.fields) ∧ p.foreignKey = none ∧ p.pattern = none ∧
      f.domain.allowed = none ∧ p.strategy.isSequential = false ∧
        TablePlan.canDeriveKeys f = true := by
  obtain ⟨general, config, i, -, -, hplan⟩ := exists_planField_of_ofTable h hp
  obtain ⟨pattern, -, heq⟩ := bind_eq_ok.mp hplan
  cases heq
  simp [and_assoc]

/-- A key member that is in no foreign key takes its default where the strategy asks for it and the
number of the row gives no key: values come from an enum or a pattern, the type has no such keys, or
the domain admits none. -/
theorem takesDefault_iff {t : Model.Table} {plan : TablePlan} (h : TablePlan.ofTable o t = .ok plan)
    {request : ValueRequest} (hrequest : (request.plan, request.field) ∈ plan.fields.zip t.fields)
    (hkey : ∃ k ∈ t.keys, request.field.name ∈ k.fields)
    (hforeign : request.plan.foreignKey = none) :
    request.TakesDefault ↔ request.plan.strategy = .default ∧
      (request.plan.pattern ≠ none ∨ request.field.domain.allowed ≠ none ∨
        TablePlan.canDeriveKeys request.field = false ∨
        ∀ p, request.field.domain.terminal = .primitive p → keyedValue? p request.field.domain
          request.plan.topic request.field.name request.ordinal request.baseDate = none) := by
  have hkeyed := rowKeyed_iff h hrequest
  refine and_congr_right fun hdefault => ?_
  have hsequential : request.plan.strategy.isSequential = false := by rw [hdefault]; rfl
  simp only [hkey, hforeign, hsequential, true_and] at hkeyed
  unfold ValueRequest.derivedValue?
  cases hrow : request.plan.rowKeyed with
  | false =>
    -- Without a key from the row one of the conditions on such keys fails.
    refine iff_of_true (by simp) ?_
    by_contra hnone
    simp only [not_or, not_not, Bool.not_eq_false] at hnone
    rw [hkeyed.mpr ⟨hnone.1, hnone.2.1, hnone.2.2.1⟩] at hrow
    cases hrow
  | true =>
    obtain ⟨hpattern, hallowed, hderives⟩ := hkeyed.mp hrow
    cases hterminal : request.field.domain.terminal with
    | primitive p => simp [hpattern, hallowed, hderives]
    | array item length => simp

theorem refusal?_default (hcompile : s.compile = .ok (m, order)) {t : Model.Table}
    (ht : t ∈ m.tables)
    {f : Model.Field} (hf : f ∈ t.fields) {v : Value} (hv : f.default = some v) :
    f.domain.refusal? v = none := by
  obtain ⟨declared, hmatches⟩ :=
    Model.exists_matches_of_ofSchema (ofSchema_and_order_of_compile hcompile).1 ht
  obtain ⟨g, -, hg⟩ := hmatches.exists_field hf
  obtain ⟨_, -, -, hadmits⟩ := hg.default v hv
  simpa [Domain.admits] using hadmits

/-- Without defaults that no value takes a run gives the same. Key members that are in no foreign
key take theirs only where the strategy asks for it and no key follows from the number of the row,
and then as it is. -/
theorem defaults_count_where_taken (hcompile : s.compile = .ok (m, order)) (o : Options) :
    (∀ q, SparesDefaults o m q → ∀ seed,
      Generation.run (s.withoutDefaults q) o seed = Generation.run s o seed) ∧
    ∀ t ∈ m.tables, ∀ plan, TablePlan.ofTable o t = .ok plan → ∀ request : ValueRequest,
      (request.plan, request.field) ∈ plan.fields.zip t.fields →
      (∃ k ∈ t.keys, request.field.name ∈ k.fields) → request.plan.foreignKey = none →
      (request.TakesDefault ↔ request.plan.strategy = .default ∧
        (request.plan.pattern ≠ none ∨ request.field.domain.allowed ≠ none ∨
          TablePlan.canDeriveKeys request.field = false ∨
          ∀ p, request.field.domain.terminal = .primitive p → keyedValue? p request.field.domain
            request.plan.topic request.field.name request.ordinal request.baseDate = none)) ∧
      (request.TakesDefault → ∀ v, request.field.default = some v → ∀ attempts,
        request.value (attempts + 1) = pure (.ok v)) := by
  refine ⟨fun q => run_withoutDefaults hcompile, ?_⟩
  intro t ht plan hplan request hrequest hkey hforeign
  refine ⟨takesDefault_iff hplan hrequest hkey hforeign, fun htakes v hv attempts => ?_⟩
  exact ValueRequest.value_of_takesDefault htakes hv
    (refusal?_default hcompile ht (List.of_mem_zip hrequest).2 hv) attempts

/-- Two rows of one field that is the key of its table and has a default, for which the strategy
asks. -/
def badgeSchema (p : Primitive) (default : Literal) : Schema :=
  { name := "badges"
    tables := [
      { name := "badge"
        fields := [{
          name := "id"
          dataType := .primitive p
          constraints := [.primaryKey none []]
          modifiers := { default := some default } }]
        directive := some { count := some 2, strategy := StrategyKind.default.name } }] }

/-- Numbers count up whatever their default is. -/
theorem defaults_count_where_taken_badge : ∃ m order,
    (badgeSchema .integer (.int 7)).compile = .ok (m, order) ∧
      SparesDefaults {} m (fun _ _ => true) ∧
      ∀ seed,
        Generation.run ((badgeSchema .integer (.int 7)).withoutDefaults fun _ _ => true) {} seed =
          Generation.run (badgeSchema .integer (.int 7)) {} seed := by
  have hcompile : (badgeSchema .integer (.int 7)).compile.toOption.isSome := by
    decide +kernel
  have hspares : ∀ compiled ∈ (badgeSchema .integer (.int 7)).compile.toOption,
      ∀ t ∈ compiled.1.tables, ∀ plan ∈ (TablePlan.ofTable {} t).toOption,
        (TableJob.mk t plan {} {} 0).Spares fun _ => true := by
    decide +kernel
  obtain ⟨⟨m, order⟩, hsome⟩ := Option.isSome_iff_exists.mp hcompile
  have hok := toOption_eq_some.mp hsome
  have h : SparesDefaults {} m fun _ _ => true := by
    rintro ⟨t, plan, references, o, seed⟩ rfl ht hplan
    exact hspares (m, order) hsome t ht plan (toOption_eq_some.mpr hplan)
  exact ⟨m, order, hok, h, (defaults_count_where_taken hok {}).1 _ h⟩

/-- The second row repeats the default of the key, which rules out that defaults never count for
keys. -/
theorem not_defaults_never_count :
    ¬ ∀ (s : Schema) (m : Model) (order : List String) (q : FieldSet) (o : Options)
    (seed : UInt64), s.compile = .ok (m, order) →
    (∀ t ∈ m.tables, ∀ f ∈ t.fields, q t.name f.name = true →
      (∃ k ∈ t.keys, f.name ∈ k.fields) ∧ ∀ k ∈ t.foreignKeys, f.name ∉ k.fields) →
    Generation.run (s.withoutDefaults q) o seed = Generation.run s o seed := by
  intro h
  let s := badgeSchema .uuid (.text "67e55044-10b1-426f-9247-bb680e5fe0c8")
  have hcompile : s.compile.toOption.isSome := by
    decide +kernel
  have hmembers : ∀ compiled ∈ s.compile.toOption, ∀ t ∈ compiled.1.tables, ∀ f ∈ t.fields,
      (∃ k ∈ t.keys, f.name ∈ k.fields) ∧ ∀ k ∈ t.foreignKeys, f.name ∉ k.fields := by
    decide +kernel
  have hfailed : error? (Generation.run s {} 1) =
      some (.unsatisfiable "badge" "id" "primary key(id)") := by
    decide +kernel
  have hrun : error? (Generation.run (s.withoutDefaults fun _ _ => true) {} 1) = none := by
    decide +kernel
  obtain ⟨⟨m, order⟩, hsome⟩ := Option.isSome_iff_exists.mp hcompile
  rw [h s m order (fun _ _ => true) {} 1 (toOption_eq_some.mp hsome)
    (fun t ht f hf _ => hmembers (m, order) hsome t ht f hf), hfailed] at hrun
  cases hrun

end Runs

end Generation

end Fixtures
