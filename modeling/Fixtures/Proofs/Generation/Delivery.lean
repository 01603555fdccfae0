import Fixtures.Proofs.Generation.BatchEvents
import Fixtures.Proofs.Generation.CompleteRun

namespace Fixtures.Generation

variable {s : Schema} {o : Options} {seed : UInt64} {m : Model} {run : Run} {t : Model.Table}
  {name : String} {rows : Nat} {order names : List String} {events before after last : List Event}

def batchSizeOf (o : Options) (t : Model.Table) : Nat :=
  Batch.size t o.batchMemoryCeiling o.maxBatchSize

def HandedOver (o : Options) (t : Model.Table) (events : List Event) : Prop :=
  ∃ batches, Completes t.name (batchSizeOf o t) (rowsOf o t) 0 batches ∧
    events = .begin t.name (rowsOf o t) :: batches.map (.batch t.name) ++ [.finish t.name]

def Interrupted (o : Options) (t : Model.Table) (events : List Event) : Prop :=
  events = [] ∨ ∃ batches, BreaksOff t.name (batchSizeOf o t) (rowsOf o t) 0 batches ∧
    events = .begin t.name (rowsOf o t) :: batches.map (.batch t.name)

/-- Tables of a model from beginning to end, one after the other. -/
inductive InTurn (o : Options) (m : Model) : List String → List Event → Prop
  | nil : InTurn o m [] []
  | cons {t : Model.Table} {name : String} {names : List String} {events more : List Event} :
      m.table? name = some t → HandedOver o t events → InTurn o m names more →
      InTurn o m (name :: names) (events ++ more)

/-- How a run ends: all tables are handed over, or those before the one that fails. -/
inductive Delivery (o : Options) (m : Model) (order : List String) : Emitted Report → Prop
  | complete {events : List Event} {report : Report} : InTurn o m order events →
      Delivery o m order (events, .ok report)
  | broken {before after : List String} {name : String} {t : Model.Table}
      {events last : List Event} {e : GenerationError} : order = before ++ name :: after →
      InTurn o m before events → m.table? name = some t → Interrupted o t last →
      Delivery o m order (events ++ last, .error e)

def Unplanned (o : Options) (m : Model) : Prop :=
  (∃ e, o.error? = some e) ∨ ∃ t ∈ m.tables, ∃ e, TablePlan.ofTable o t = .error e

def ParentsFirst (m : Model) (events : List Event) : Prop :=
  ∀ before name rows after, events = before ++ .begin name rows :: after →
    ∀ t, m.table? name = some t → ∀ k ∈ t.foreignKeys, .finish k.targetTable ∈ before

theorem handedOver_or_interrupted (job : TableJob) (hname : job.plan.name = job.table.name)
    (hcount : job.plan.count = rowsOf job.options job.table) :
    match job.generate with
    | (events, .ok _) => HandedOver job.options job.table events
    | (events, .error _) => Interrupted job.options job.table events := by
  have hcut := job.cut_generateFrom 0 (.ofKeys job.plan.keys)
  unfold TableJob.generate
  cases job.emptyParent? with
  | some target => exact .inl rfl
  | none =>
    simp only
    generalize job.generateFrom 0 (.ofKeys job.plan.keys) = result at hcut ⊢
    cases hcut with
    | complete h =>
      rw [hname, hcount] at h
      exact ⟨_, h, by rw [hname, hcount]⟩
    | broken h =>
      rw [hname, hcount] at h
      exact .inr ⟨_, h, by rw [hname, hcount]⟩

theorem eq_of_begin_mem {batches : List (List Record)} {rest : List Event}
    (hrest : ∀ e ∈ rest, ∀ name rows, e ≠ .begin name rows)
    (h : .begin t.name (rowsOf o t) :: (batches.map (.batch t.name) ++ rest) =
      before ++ .begin name rows :: after) : before = [] ∧ name = t.name := by
  cases before with
  | nil =>
    injection h with hhead
    injection hhead with hname
    exact ⟨rfl, hname.symm⟩
  | cons e before =>
    injection h with _ htail
    have hmem : Event.begin name rows ∈ batches.map (.batch t.name) ++ rest := by
      rw [htail]
      simp
    rcases List.mem_append.mp hmem with hmem | hmem
    · obtain ⟨b, -, hb⟩ := List.mem_map.mp hmem
      cases hb
    · exact absurd rfl (hrest _ hmem name rows)

theorem HandedOver.eq_of_begin (h : HandedOver o t events)
    (heq : events = before ++ .begin name rows :: after) : before = [] ∧ name = t.name := by
  obtain ⟨batches, -, rfl⟩ := h
  exact eq_of_begin_mem (by simp) heq

theorem Interrupted.eq_of_begin (h : Interrupted o t events)
    (heq : events = before ++ .begin name rows :: after) : before = [] ∧ name = t.name := by
  rcases h with rfl | ⟨batches, -, rfl⟩
  · simp at heq
  · rw [← List.append_nil (batches.map _)] at heq
    exact eq_of_begin_mem (by simp) heq

theorem HandedOver.finish_mem (h : HandedOver o t events) : .finish t.name ∈ events := by
  obtain ⟨batches, -, rfl⟩ := h
  simp

theorem name_of_table? (h : m.table? name = some t) : t.name = name := by
  simpa using List.find?_some h

theorem InTurn.finish_mem (h : InTurn o m names events) (hname : name ∈ names) :
    .finish name ∈ events := by
  induction h with
  | nil => cases hname
  | cons htable hover _ ih =>
    rw [List.mem_append]
    rcases List.mem_cons.mp hname with rfl | hname
    · rw [← name_of_table? htable]
      exact .inl hover.finish_mem
    · exact .inr (ih hname)

theorem InTurn.of_begin (h : InTurn o m names events)
    (heq : events = before ++ .begin name rows :: after) :
    ∃ done rest, names = done ++ name :: rest ∧ InTurn o m done before := by
  induction h generalizing before with
  | nil => simp at heq
  | @cons t first names events more htable hover hmore ih =>
    rcases List.append_eq_append_iff.mp heq with ⟨between, rfl, hrest⟩ | ⟨between, hevents, htail⟩
    · obtain ⟨done, rest, rfl, hdone⟩ := ih hrest
      exact ⟨first :: done, rest, rfl, .cons htable hover hdone⟩
    · cases between with
      | nil =>
        have hbegin : more = [] ++ .begin name rows :: after := htail.symm
        obtain ⟨done, rest, rfl, hdone⟩ := ih hbegin
        exact ⟨first :: done, rest, rfl, by simpa [hevents] using hdone.cons htable hover⟩
      | cons e between =>
        rw [List.cons_append] at htail
        injection htail with hhead
        obtain ⟨rfl, rfl⟩ := hover.eq_of_begin (hhead ▸ hevents)
        exact ⟨[], names, by rw [name_of_table? htable, List.nil_append], .nil⟩

theorem Delivery.cons {result : Emitted Report} (htable : m.table? name = some t)
    (hover : HandedOver o t events) (h : Delivery o m names result) :
    Delivery o m (name :: names) (events ++ result.1, result.2) := by
  cases h with
  | complete hall => exact .complete (.cons htable hover hall)
  | @broken before _ _ _ _ _ _ hnames hbefore hnext hlast =>
    rw [← List.append_assoc]
    exact .broken (congrArg (name :: ·) hnames) (.cons htable hover hbefore) hnext hlast

theorem delivery_generateTables (run : Run) {plans : List TablePlan}
    (hplans : ∀ plan ∈ plans, ∃ t, run.model.table? plan.name = some t ∧
      TablePlan.ofTable run.options t = .ok plan) (references : References) (report : Report) :
    Delivery run.options run.model (plans.map TablePlan.name)
      (run.generateTables references report plans) := by
  induction plans generalizing references report with
  | nil => exact .complete .nil
  | cons plan plans ih =>
    obtain ⟨⟨t, ht, hplan⟩, hrest⟩ := List.forall_mem_cons.mp hplans
    have htable : TablePlan.tableOf run.model plan.name = .ok t := by
      rw [TablePlan.tableOf, ht]
    have hgenerate := handedOver_or_interrupted (run.job t plan references)
      (isOf_of_ofTable hplan).name (count_of_ofTable hplan)
    rw [Run.generateTables, htable]
    simp only
    generalize (run.job t plan references).generate = result at hgenerate
    obtain ⟨events, result⟩ := result
    cases result with
    | error e =>
      have hnone : InTurn run.options run.model [] [] := .nil
      exact .broken rfl hnone ht hgenerate
    | ok result => exact (ih hrest _ _).cons ht hgenerate

theorem exists_run_of_planned (hcompile : s.compile = .ok (m, order)) (h : ¬ Unplanned o m)
    (seed : UInt64) : ∃ plans, TablePlan.ofOrder o m order = .ok plans ∧
      Run.ofModel o m order seed = .ok ⟨m, o, seed, plans⟩ := by
  have hchecked : o.checked = .ok o := by
    cases he : o.error? with
    | none => exact checked_eq_ok he
    | some e => exact absurd (.inl ⟨e, he⟩) h
  cases hplans : TablePlan.ofOrder o m order with
  | ok plans =>
    refine ⟨plans, rfl, ?_⟩
    simp only [Run.ofModel, hchecked, hplans, bind, Except.bind]
    rfl
  | error e =>
    obtain ⟨name, hname, he⟩ := exists_of_mapM_eq_error hplans
    obtain ⟨t, ht⟩ := exists_table?_of_mem_order hcompile hname
    rw [TablePlan.tableOf, ht] at he
    exact absurd (.inr ⟨t, List.mem_of_find?_eq_some ht, e, he⟩) h

theorem generateModel_of_unplanned (hcompile : s.compile = .ok (m, order)) (h : Unplanned o m)
    (seed : UInt64) : ∃ e, generateModel o m order seed = ([], .error e) := by
  cases hrun : Run.ofModel o m order seed with
  | error e => exact ⟨e, generateModel_of_error hrun⟩
  | ok run =>
    obtain ⟨o', ho, hrest⟩ := bind_eq_ok.mp hrun
    obtain ⟨plans, hplans, -⟩ := bind_eq_ok.mp hrest
    obtain rfl := eq_of_checked ho
    rcases h with ⟨e, he⟩ | ⟨t, ht, e, he⟩
    · rw [Options.checked, he] at ho
      cases ho
    · obtain ⟨plan, -, hplan⟩ := mem_of_mapM hplans (mem_order_of_mem_tables hcompile ht)
      rw [TablePlan.tableOf, (isOf_of_compile hcompile).table?_of_mem ht] at hplan
      exact absurd (he.symm.trans hplan) (by simp)

theorem delivery_generateModel (hcompile : s.compile = .ok (m, order)) (h : ¬ Unplanned o m)
    (seed : UInt64) : Delivery o m order (generateModel o m order seed) := by
  obtain ⟨plans, hplans, hrun⟩ := exists_run_of_planned hcompile h seed
  rw [generateModel_of_ok hrun, ← names_of_ofOrder hplans]
  exact delivery_generateTables ⟨m, o, seed, plans⟩
    (fun plan hplan => exists_table_of_ofOrder hplans hplan) _ _

/-- In the order of a compiled schema all tables come after those that they reference. -/
theorem Delivery.parentsFirst {result : Emitted Report} (hcompile : s.compile = .ok (m, order))
    (h : Delivery o m order result) : ParentsFirst m result.1 := by
  intro before name rows after heq t ht k hk
  cases h with
  | complete hall =>
    obtain ⟨done, rest, horder, hdone⟩ := hall.of_begin heq
    exact hdone.finish_mem (parent_mem_before hcompile horder ht hk)
  | @broken first tail next _ events last _ horder hfirst hnext hlast =>
    rcases List.append_eq_append_iff.mp heq with ⟨between, rfl, hrest⟩ | ⟨between, hevents, htail⟩
    · obtain ⟨rfl, rfl⟩ := hlast.eq_of_begin hrest
      rw [name_of_table? hnext] at ht
      exact List.mem_append_left _ (hfirst.finish_mem (parent_mem_before hcompile horder ht hk))
    · cases between with
      | nil =>
        have hbegin : last = [] ++ .begin name rows :: after := htail.symm
        obtain ⟨-, rfl⟩ := hlast.eq_of_begin hbegin
        rw [name_of_table? hnext] at ht
        rw [List.append_nil] at hevents
        exact hevents ▸ hfirst.finish_mem (parent_mem_before hcompile horder ht hk)
      | cons e between =>
        rw [List.cons_append] at htail
        injection htail with hhead
        obtain ⟨done, rest, rfl, hdone⟩ := hfirst.of_begin (hhead ▸ hevents)
        rw [List.append_assoc, List.cons_append] at horder
        exact hdone.finish_mem (parent_mem_before hcompile horder ht hk)

theorem deliver_of_accepting {σ : Type} (accept : σ → Event → σ) (start : σ) (events : List Event) :
    Event.deliver (fun s e => .ok (accept s e)) start events =
      (events.foldl accept start, none) := by
  induction events generalizing start with
  | nil => rfl
  | cons e events ih => exact ih (accept start e)

/-- What a run hands over, and in which order. Where it cannot be planned it hands over nothing. -/
structure Delivers (o : Options) (m : Model) (order : List String) (result : Emitted Report) :
    Prop where
  planned : ¬ Unplanned o m → Delivery o m order result
  unplanned : Unplanned o m → result.1 = [] ∧ ∃ e, result.2 = .error e
  parentsFirst : ParentsFirst m result.1
  received : ∀ (σ : Type) (accept : σ → Event → σ) (start : σ),
    Event.deliver (fun s e => .ok (accept s e)) start result.1 =
      (result.1.foldl accept start, none)

/-- The tables of a compiled schema are handed over one after the other in its order, each as its
beginning, its rows in full batches but for the last one, and its end. A run that fails in a table
stops after the beginning of that table and some full batches of it, or before. -/
theorem delivers_in_order (hcompile : s.compile = .ok (m, order)) (o : Options) (seed : UInt64) :
    Delivers o m order (generateModel o m order seed) := by
  refine ⟨fun h => delivery_generateModel hcompile h seed, fun h => ?_, ?_,
    fun σ accept start => deliver_of_accepting accept start _⟩
  · obtain ⟨e, he⟩ := generateModel_of_unplanned hcompile h seed
    rw [he]
    exact ⟨rfl, e, rfl⟩
  · by_cases h : Unplanned o m
    · obtain ⟨e, he⟩ := generateModel_of_unplanned hcompile h seed
      rw [he]
      intro before name rows after heq
      simp at heq
    · exact (delivery_generateModel hcompile h seed).parentsFirst hcompile

/-- A table and one that references it and asks for more unique truth values than there are. -/
def coinSchema : Schema :=
  { name := "coins"
    tables := [
      { name := "toss"
        fields := [
          { name := "coin"
            dataType := .primitive .integer
            constraints := [.foreignKey ⟨none, [], "coin", ["id"], none⟩] },
          { name := "heads", dataType := .primitive .boolean, constraints := [.unique none []] }]
        directive := some { count := some 3 } },
      { name := "coin"
        fields := [
          { name := "id", dataType := .primitive .integer, constraints := [.primaryKey none []] }]
        directive := some { count := some 1 } }] }

/-- In batches of a single row the first two tosses are handed over before the run fails. -/
theorem delivers_in_order_coins : ∃ m order events e, coinSchema.compile = .ok (m, order) ∧
    generateModel { maxBatchSize := 1, maxAttemptsRow := 1 } m order 0 = (events, .error e) ∧
    events.length = 6 ∧
    Delivers { maxBatchSize := 1, maxAttemptsRow := 1 } m order (events, .error e) := by
  have h : coinSchema.compile.toOption.any (fun (m, order) =>
      match generateModel { maxBatchSize := 1, maxAttemptsRow := 1 } m order 0 with
      | (events, .error _) => events.length == 6
      | _ => false) = true := by
    decide +kernel
  obtain ⟨⟨m, order⟩, hcompiled, hrun⟩ := Option.any_eq_true _ _ |>.mp h
  have hcompile := toOption_eq_some.mp hcompiled
  have hdelivers := delivers_in_order hcompile { maxBatchSize := 1, maxAttemptsRow := 1 } 0
  simp only at hrun
  split at hrun
  · rename_i events e heq
    rw [heq] at hdelivers
    exact ⟨m, order, events, e, hcompile, heq, by simpa using hrun, hdelivers⟩
  · cases hrun

end Fixtures.Generation
