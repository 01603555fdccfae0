import Fixtures.Proofs.Generation.FailedRuns
import Fixtures.Proofs.Generation.RowErrors
import Fixtures.Proofs.Generation.ScalarFaults

namespace Fixtures.Generation

open Fixtures.Random

variable {α β : Type} {e : GenerationError} {f : Fault}

def FieldPlan.HasTexts (p : FieldPlan) : Prop :=
  ∀ locale library, p.strategy = .faker locale library → library.HasTexts

namespace ValueRequest

variable {q : ValueRequest}

/-- Where a value is drawn with a length: every array, and what no enum or pattern says. -/
def DrawsLength (q : ValueRequest) : Prop :=
  ∀ p, q.field.domain.terminal = .primitive p →
    q.field.domain.allowed.getD [] = [] ∧ (p = .string → q.plan.pattern = none)

/-- Values of which the one that is asked for does not exist. -/
inductive Fails (q : ValueRequest) : Fault → Prop
  | tooFar {start step : Int} : q.field.domain.allowed.getD [] = [] →
      q.plan.strategy = .sequential start step →
      TooFar q.field.domain.terminal.element (sequenceNumber start step q.row) →
      q.Fails .spanTooLong
  | tooWide : q.field.domain.allowed.getD [] = [] → q.field.domain.terminal.element = .decimal →
      TooWide q.field.domain.numeric → q.Fails .widthNotFinite
  | tooLong : q.DrawsLength → q.field.domain.TooLong → q.Fails .listTooLong

theorem getD_eq_nil {values : Option (List Value)} (h : ∀ v vs, values = some (v :: vs) → False) :
    values.getD [] = [] := by
  match values with
  | none | some [] => rfl
  | some (v :: vs) => exact (h v vs rfl).elim

theorem isTotal_allowedValue {v : Value} {vs : List Value} (synthetic : Bool) :
    IsTotal (q.allowedValue synthetic (v :: vs)) := by
  unfold allowedValue
  split
  · exact faultsOnly_pure _
  · exact isTotal_choose (List.cons_ne_nil v vs)

variable (htexts : q.plan.HasTexts)
include htexts

theorem faultsOnly_strategyValue (hallowed : q.field.domain.allowed.getD [] = [])
    (length : Bounds Nat) (synthetic : Bool) :
    FaultsOnly (q.strategyValue q.field.domain.terminal.element length synthetic) fun f =>
      q.Fails f ∨
        Unaddressable (.primitive q.field.domain.terminal.element) (length.min.getD 0) f := by
  have hrandom := (faultsOnly_randomScalar q.field.domain.terminal.element q.field.domain length
    q.baseDate).mono fun f hf => hf.imp_left fun ⟨hdecimal, heq, hwide⟩ =>
      show q.Fails f from heq ▸ .tooWide hallowed hdecimal hwide
  unfold strategyValue
  simp only
  split
  · exact hrandom
  · split
    · next locale library hstrategy =>
      split
      · exact (htexts locale library hstrategy _ _).faultsOnly.bind fun _ => faultsOnly_pure _
      · exact hrandom
    · next start step hstrategy =>
      refine faultsOnly_lift fun f hf => .inl ?_
      obtain ⟨rfl, hfar⟩ := sequentialValue_eq_error.mp hf
      exact .tooFar hallowed hstrategy hfar
    · exact hrandom

theorem faultsOnly_element (length : Bounds Nat) (synthetic : Bool) :
    FaultsOnly (q.element q.field.domain.terminal.element length synthetic) fun f =>
      q.Fails f ∨ (q.field.domain.allowed.getD [] = [] ∧
        (q.field.domain.terminal.element = .string → q.plan.pattern = none) ∧
          Unaddressable (.primitive q.field.domain.terminal.element) (length.min.getD 0) f) := by
  unfold element
  split
  · exact (isTotal_allowedValue synthetic).faultsOnly
  · next hallowed =>
    have hallowed := getD_eq_nil hallowed
    split
    · exact (isTotal_patternText _).faultsOnly.bind fun _ => faultsOnly_pure _
    · next hp =>
      exact (faultsOnly_strategyValue htexts hallowed _ _).mono fun f hf =>
        hf.imp_right fun hlong => ⟨hallowed, fun h => absurd h hp, hlong⟩
  · next hpattern hallowed =>
    have hallowed := getD_eq_nil hallowed
    exact (faultsOnly_strategyValue htexts hallowed _ _).mono fun f hf =>
      hf.imp_right fun hlong => ⟨hallowed, fun _ => hpattern, hlong⟩

theorem faultsOnly_typedValue (synthetic : Bool) :
    FaultsOnly (q.typedValue synthetic) q.Fails := by
  have helement := fun length => faultsOnly_element htexts length synthetic
  have hlong : ∀ f, q.DrawsLength →
      Unaddressable q.field.domain.terminal q.field.domain.leastLength f → q.Fails f :=
    fun f hdraws ⟨heq, h⟩ => heq ▸ .tooLong hdraws h
  unfold DrawsLength Domain.leastLength at hlong
  unfold typedValue
  simp only
  generalize q.field.domain.terminal = t at helement hlong ⊢
  cases t with
  | primitive p =>
    refine (helement q.field.domain.length).mono fun f hf => hf.elim id ?_
    rintro ⟨hallowed, hpattern, h⟩
    refine hlong f (fun p' hp => ?_) h
    cases hp
    exact ⟨hallowed, hpattern⟩
  | array item fixed =>
    have hitems : ∀ count, FaultsOnly (do
        reserve count Batch.slotBytes
        return Value.array (← times count (q.element item .unbounded synthetic)))
        fun f => q.Fails f ∨ Unaddressable (.array item fixed) count f := by
      intro count
      refine ((faultsOnly_reserve count _).mono fun f => .inr).bind fun _ => ?_
      refine (faultsOnly_times ?_ count).bind fun _ => faultsOnly_pure _
      refine (helement .unbounded).mono fun f hf => hf.elim .inl ?_
      exact fun h => (not_unaddressable_zero h.2.2).elim
    cases fixed with
    | none =>
      refine LengthRange.faultsOnly_within (by decide) q.field.domain.length fun count hcount => ?_
      refine (hitems count).mono fun f hf => hf.elim id fun h => ?_
      have husual : LengthRange.array.most * Batch.slotBytes < byteLimit := by decide
      exact hlong f (fun p hp => by cases hp) (h.of_le_max hcount husual)
    | some n =>
      refine (LengthRange.isTotal_draw _).faultsOnly.bind_gives (gives_draw_of_eq n)
        fun count hcount => ?_
      refine (hitems count).mono fun f hf => hf.elim id fun h => ?_
      exact hlong f (fun p hp => by cases hp) (hcount ▸ h)

theorem faultsOnly_candidate (synthetic : Bool) : FaultsOnly (q.candidate synthetic) q.Fails := by
  unfold candidate
  split
  · exact faultsOnly_pure _
  · split
    · exact faultsOnly_pure _
    · exact faultsOnly_typedValue htexts synthetic

theorem faultsOnly_search (synthetic attempts : Nat) (violated : String) :
    FaultsOnly (q.search synthetic attempts violated) q.Fails := by
  induction attempts generalizing synthetic violated with
  | zero => exact faultsOnly_pure _
  | succ attempts ih =>
    refine (faultsOnly_candidate htexts _).bind fun v => ?_
    split
    · exact faultsOnly_pure _
    · exact ih _ _

end ValueRequest

theorem faultsOnly_bind_run {d : RowDraw α} {g : α → RowDraw β} {q : Fault → Prop}
    (hd : FaultsOnly d.run q) (hg : ∀ a, FaultsOnly (g a).run q) : FaultsOnly (d >>= g).run q := by
  rw [ExceptT.run_bind]
  refine hd.bind fun result => ?_
  cases result with
  | error e => exact faultsOnly_pure _
  | ok a => exact hg a

theorem faultsOnly_lift_run {d : Draw α} {q : Fault → Prop} (hd : FaultsOnly d q) :
    FaultsOnly (liftM d : RowDraw α).run q :=
  hd.bind fun _ => faultsOnly_pure _

theorem isTotal_index_draw {s : ReferenceSet} (h : s.tuples ≠ []) (d : Distribution) :
    IsTotal (s.index d) := by
  cases d with
  | uniform => exact isTotal_index (List.length_pos_iff.mpr h)
  | zipf | normal => exact isTotal_unitFloat.bind fun _ => faultsOnly_pure _

theorem isTotal_draw (s : ReferenceSet) (d : Distribution) : IsTotal (s.draw d) := by
  unfold ReferenceSet.draw
  split
  · exact faultsOnly_pure _
  · next h => exact (isTotal_index_draw (by simpa using h) d).bind fun _ => faultsOnly_pure _

theorem isTotal_resolve (r : References) (table : String) (k : ForeignKeyPlan) :
    IsTotal (r.resolve table k) := by
  unfold References.resolve
  simp only
  split <;>
    · refine FaultsOnly.bind ?_ fun drawn => ?_
      · first | exact isTotal_draw _ _ | exact faultsOnly_pure _
      · cases drawn <;> exact faultsOnly_pure _

namespace TableJob

variable {job : TableJob}

/-- A value that a job may ask for: of a field that is in no foreign key, in one of the rows of the
table. -/
structure Asks (job : TableJob) (q : ValueRequest) : Prop where
  field : (q.plan, q.field) ∈ job.plan.fields.zip job.table.fields
  foreignKey : q.plan.foreignKey = none
  row : q.row < job.plan.count

def Fails (job : TableJob) (f : Fault) : Prop :=
  ∃ q, job.Asks q ∧ q.Fails f

def HasRates (job : TableJob) : Prop :=
  ∀ p f, (p, f) ∈ job.plan.fields.zip job.table.fields → 0.0 ≤ p.nullRate ∧ p.nullRate ≤ 1.0

def HasTexts (job : TableJob) : Prop :=
  ∀ p f, (p, f) ∈ job.plan.fields.zip job.table.fields → p.HasTexts

theorem isTotal_parentKey (k : ForeignKeyPlan) (attempts : Nat) (last : Nat × String) :
    IsTotal (job.parentKey k attempts last).run := by
  induction attempts generalizing last with
  | zero => exact faultsOnly_pure _
  | succ attempts ih =>
    refine faultsOnly_bind_run (isTotal_resolve _ _ _) fun tuple => ?_
    split
    · exact faultsOnly_pure _
    · exact ih _

theorem isTotal_foreignValues (values : List Value) (ks : List ForeignKeyPlan) :
    IsTotal (job.foreignValues values ks).run := by
  induction ks generalizing values with
  | nil => exact faultsOnly_pure _
  | cons k ks ih => exact faultsOnly_bind_run (isTotal_parentKey k _ _) fun tuple => ih _

theorem faultsOnly_fieldValue {row attempt : Nat} {plan : FieldPlan} {field : Model.Field}
    {current : Value} (hrates : job.HasRates) (htexts : job.HasTexts) (hrow : row < job.plan.count)
    (hfield : (plan, field) ∈ job.plan.fields.zip job.table.fields) :
    FaultsOnly (job.fieldValue row attempt plan field current).run job.Fails := by
  have hleft : IsTotal (leftNull plan) := by
    obtain ⟨hlow, hhigh⟩ := hrates plan field hfield
    unfold leftNull
    split
    · exact isTotal_chance hlow hhigh
    · exact faultsOnly_pure _
  unfold fieldValue
  split
  · exact faultsOnly_pure _
  · next hkey =>
    refine faultsOnly_bind_run (faultsOnly_lift_run hleft.faultsOnly) fun left => ?_
    split
    · exact faultsOnly_pure _
    · refine faultsOnly_bind_run (faultsOnly_lift_run ?_) fun result => ?_
      · refine (ValueRequest.faultsOnly_search (htexts plan field hfield) _ _ _).mono
          fun f hf => ⟨_, ⟨hfield, ?_, hrow⟩, hf⟩
        simpa using hkey
      · cases result <;> exact faultsOnly_pure _

theorem faultsOnly_fieldValues {row attempt : Nat}
    {entries : List (FieldPlan × Model.Field × Value)}
    (hrates : job.HasRates) (htexts : job.HasTexts) (hrow : row < job.plan.count)
    (h : ∀ entry ∈ entries, (entry.1, entry.2.1) ∈ job.plan.fields.zip job.table.fields) :
    FaultsOnly (job.fieldValues row attempt entries).run job.Fails := by
  induction entries with
  | nil => exact faultsOnly_pure _
  | cons entry entries ih =>
    obtain ⟨hentry, hentries⟩ := List.forall_mem_cons.mp h
    exact faultsOnly_bind_run (faultsOnly_fieldValue hrates htexts hrow hentry) fun v =>
      faultsOnly_bind_run (ih hentries) fun vs => faultsOnly_pure _

theorem faultsOnly_drawValues {row : Nat} (hrates : job.HasRates) (htexts : job.HasTexts)
    (hrow : row < job.plan.count) (attempt : Nat) :
    FaultsOnly (job.drawValues row attempt).run job.Fails := by
  refine faultsOnly_bind_run (isTotal_foreignValues _ _).faultsOnly fun foreign => ?_
  exact faultsOnly_fieldValues hrates htexts hrow fun entry => mem_zip_of_mem_zip_zip

theorem fails_of_generate (hrates : job.HasRates) (htexts : job.HasTexts)
    (h : job.generate.2 = .error (.fault f)) : job.Fails f := by
  rcases errorSource_of_generate h with ⟨target, -, heq⟩ | ⟨-, hsource⟩
  · cases heq
  · generalize herror : GenerationError.fault f = e at hsource
    cases hsource with
    | values hrow hvalues =>
      subst herror
      rcases valueError_of_rowValues hvalues with hwanting | ⟨f', heq, hfault⟩
      · cases hwanting
      · cases heq
        exact faultsOnly_drawValues hrates htexts hrow _ _ _ hfault
    | check | key | noAttempts => cases herror

end TableJob

section Rates

variable {o : Options} {t : Model.Table} {plan : TablePlan}

theorem rate_of_read {kind : StrategyKind} {options : OptionMap} {config : StrategyConfig}
    (h : StrategyConfig.read kind options o = .ok config) :
    ∀ rate, config.nullRate = some rate → 0.0 ≤ rate ∧ rate ≤ 1.0 := by
  simp only [StrategyConfig.read, bind_eq_ok] at h
  obtain ⟨p, -, strategy, -, h⟩ := h
  split at h
  · next hrate =>
    cases h
    intro rate hsome
    rw [show p.float? "null_rate" = some rate from hsome] at hrate
    simpa [StrategyConfig.isRate] using hrate
  · cases h

theorem rate_of_getD {config : StrategyConfig} {rate : Float} (hconfig : IsConfigOf o t config)
    (hrate : 0.0 ≤ rate ∧ rate ≤ 1.0) :
    0.0 ≤ config.nullRate.getD rate ∧ config.nullRate.getD rate ≤ 1.0 := by
  obtain ⟨kind, options, -, hread⟩ := hconfig
  cases h : config.nullRate with
  | none => exact hrate
  | some own => exact rate_of_read hread own h

/-- A field is null as likely as its strategy, its table or the options say, which is checked in
each place. -/
theorem rates_of_ofTable (ho : 0.0 ≤ o.nullRate ∧ o.nullRate ≤ 1.0)
    (h : TablePlan.ofTable o t = .ok plan)
    {p : FieldPlan} {f : Model.Field} (hp : (p, f) ∈ plan.fields.zip t.fields) :
    0.0 ≤ p.nullRate ∧ p.nullRate ≤ 1.0 := by
  obtain ⟨general, config, i, hgeneral, hconfig, hplan⟩ := exists_planField_of_ofTable h hp
  obtain ⟨pattern, -, heq⟩ := bind_eq_ok.mp hplan
  cases heq
  exact rate_of_getD hconfig (rate_of_getD hgeneral ho)

theorem library_of_read {kind : StrategyKind} {options : OptionMap} {config : StrategyConfig}
    (h : StrategyConfig.read kind options o = .ok config) {locale : Faker.Locale}
    {library : Faker.Library} (hfaker : config.strategy = .faker locale library) :
    library = o.faker := by
  simp only [StrategyConfig.read, bind_eq_ok] at h
  obtain ⟨p, -, strategy, hstrategy, h⟩ := h
  split at h
  · cases h
    obtain rfl : strategy = .faker locale library := hfaker
    cases kind with
    | faker =>
      unfold StrategyConfig.strategyOf at hstrategy
      cases hlocale : StrategyConfig.locale p o <;> rw [hlocale] at hstrategy <;> cases hstrategy
      rfl
    | pattern =>
      unfold StrategyConfig.strategyOf at hstrategy
      cases hrepeat : StrategyConfig.maxRepeat p <;> rw [hrepeat] at hstrategy <;> cases hstrategy
    | random | sequential | default => cases hstrategy
  · cases h

theorem texts_of_ofTable (ho : o.faker.HasTexts) (h : TablePlan.ofTable o t = .ok plan)
    {p : FieldPlan} {f : Model.Field} (hp : (p, f) ∈ plan.fields.zip t.fields) : p.HasTexts := by
  obtain ⟨general, config, i, -, ⟨kind, options, -, hread⟩, hplan⟩ :=
    exists_planField_of_ofTable h hp
  obtain ⟨pattern, -, heq⟩ := bind_eq_ok.mp hplan
  cases heq
  intro locale library hfaker
  rw [library_of_read hread hfaker]
  exact ho

theorem rate_of_checked (h : o.checked = .ok o) : 0.0 ≤ o.nullRate ∧ o.nullRate ≤ 1.0 := by
  unfold Options.checked Options.error? at h
  split at h
  · next hnone =>
    split at hnone
    · cases hnone
    · next hrate => simpa using hrate
  · cases h

end Rates

section Runs

variable {s : Schema} {o : Options} {seed : UInt64}

def Asked (s : Schema) (o : Options) (q : ValueRequest) : Prop :=
  ∃ m order t plan, s.compile = .ok (m, order) ∧ t ∈ m.tables ∧ TablePlan.ofTable o t = .ok plan ∧
    (q.plan, q.field) ∈ plan.fields.zip t.fields ∧ q.plan.foreignKey = none ∧ q.row < plan.count

theorem exists_asked_of_run (htexts : o.faker.HasTexts)
    (h : Generation.run s o seed = .error (.fault f)) : ∃ q, Asked s o q ∧ q.Fails f := by
  generalize herror : GenerationError.fault f = e at h
  cases runError_of_run h with
  | options | analysis => cases herror
  | directive _ hplans =>
    obtain ⟨d, rfl⟩ := exists_directive_of_ofOrder hplans
    cases herror
  | @table order run done plan rest t _ hdone ho _ hchecked ht hof hgenerate =>
    subst herror
    obtain ⟨q, hasks, hfails⟩ := TableJob.fails_of_generate
      (fun _ _ => rates_of_ofTable (rate_of_checked hchecked) hof)
      (fun _ _ => texts_of_ofTable htexts hof) hgenerate
    exact ⟨q, ⟨run.model, order, t, plan, hdone.compiled, List.mem_of_find?_eq_some ht, hof,
      hasks.field, hasks.foreignKey, hasks.row⟩, hfails⟩

/-- Memory can be set aside for as many rows as a batch may have. A row takes less than 128 bytes
beside the values in it. -/
def HasSmallBatches (o : Options) : Prop :=
  o.maxBatchSize * 128 ≤ byteLimit

/-- Runs give rows or an error that says what is wrong, except where a value that they ask for does
not exist. In a sequence all numbers have values but for those of dates and instants that are too
far from the base, bounds have decimals between them unless they are too wide, and there are texts
and byte sequences of every length but of those that no list can have. -/
theorem faults_only_beyond_bounds (s : Schema) (o : Options) (seed : UInt64) :
    (o.faker.HasTexts → HasSmallBatches o →
        ∀ f, Generation.run s o seed = .error (.fault f) → ∃ q, Asked s o q ∧ q.Fails f) ∧
      (∀ p b field n base f, sequentialValue p b field n base = .error f ↔ f = .spanTooLong ∧
          TooFar p n) ∧
      (∀ b field n base, sequentialValue .date b field n base =
        match base.addDays? n with
        | some d => .ok (.date d)
        | none => if IsSpan (secondsOfDays n) then .ok (.date base) else .error .spanTooLong) ∧
      (∀ b field n base, sequentialValue .timestamp b field n base =
        match (Timestamp.midnight base).addSeconds? (n * 3600) with
        | some t => .ok (.timestamp t)
        | none => if IsSpan (n * 3600) then .ok (.timestamp (.midnight base))
          else .error .spanTooLong) ∧
      (∀ b source f, randomDecimal b source = .error f ↔ f = .widthNotFinite ∧ TooWide b) ∧
      (∀ n source f, alphanumeric n source = .error f ↔ f = .listTooLong ∧ byteLimit ≤ n) ∧
      ∀ n source f, bytes n source = .error f ↔ f = .listTooLong ∧ byteLimit ≤ n :=
  ⟨fun htexts _ _ => exists_asked_of_run htexts, fun _ _ _ _ _ _ => sequentialValue_eq_error,
    fun _ _ _ _ => sequentialValue_date, fun _ _ _ _ => sequentialValue_timestamp,
    fun _ _ _ => randomDecimal_eq_error, fun _ _ _ => alphanumeric_eq_error,
    fun _ _ _ => bytes_eq_error⟩

def cellSchema (p : Primitive) (constraints : List Constraint) (strategy : StrategyKind)
    (options : OptionMap) : Schema :=
  { name := "cells"
    tables := [
      { name := "cell"
        fields := [{
          name := "value"
          dataType := .primitive p
          constraints
          modifiers := { notNull := true } }]
        directive := some { count := some 1, strategy := strategy.name, options } }] }

def farSchema : Schema :=
  cellSchema .date [] .sequential [("start", .int 9223372036854775807)]

def wideSchema : Schema :=
  cellSchema .decimal [.range (some (.decimal (-1.7e308))) (some (.decimal 1.7e308))] .random []

def longSchema : Schema :=
  cellSchema .binary [.length (some 18446744073709551615) none] .random []

theorem run_farSchema : Generation.run farSchema {} 1 = .error (.fault .spanTooLong) := by
  have h : error? (Generation.run farSchema {} 1) = some (.fault .spanTooLong) := by
    decide +kernel
  exact error?_eq_some.mp h

theorem run_wideSchema : Generation.run wideSchema {} 1 = .error (.fault .widthNotFinite) := by
  have h : error? (Generation.run wideSchema {} 1) = some (.fault .widthNotFinite) := by
    decide +kernel
  exact error?_eq_some.mp h

theorem run_longSchema : Generation.run longSchema {} 1 = .error (.fault .listTooLong) := by
  have h : error? (Generation.run longSchema {} 1) = some (.fault .listTooLong) := by
    decide +kernel
  exact error?_eq_some.mp h

theorem hasSmallBatches_default : HasSmallBatches {} := by
  unfold HasSmallBatches
  decide

theorem faults_only_beyond_bounds_cell :
    (∃ q, Asked farSchema {} q ∧ q.Fails .spanTooLong) ∧
      (∃ q, Asked wideSchema {} q ∧ q.Fails .widthNotFinite) ∧
      ∃ q, Asked longSchema {} q ∧ q.Fails .listTooLong :=
  have runFails (s : Schema) := (faults_only_beyond_bounds s {} 1).1 Faker.hasTexts_text
    hasSmallBatches_default
  ⟨runFails farSchema _ run_farSchema, runFails wideSchema _ run_wideSchema,
    runFails longSchema _ run_longSchema⟩

/-- Accepted schemas under valid options may well have such values. -/
theorem not_runs_never_fault : ¬ ∀ (s : Schema) (o : Options) (seed : UInt64) (f : Fault),
    s.compile.toOption.isSome → o.error? = none → Generation.run s o seed ≠ .error (.fault f) := by
  intro h
  exact h farSchema {} 1 .spanTooLong (by decide +kernel) rfl run_farSchema

end Runs

end Fixtures.Generation
