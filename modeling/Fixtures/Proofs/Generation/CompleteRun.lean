import Fixtures.Proofs.Dependency.Order
import Fixtures.Proofs.Generation.DrawnKeys
import Fixtures.Proofs.Generation.Rebatching

namespace Fixtures.Generation

section

variable {s : Schema} {o : Options} {seed : UInt64} {out : Output} {m : Model} {plan : TablePlan}

theorem table?_of_tableOf {name : String} {t : Model.Table} (h : TablePlan.tableOf m name = .ok t) :
    m.table? name = some t := by
  unfold TablePlan.tableOf at h
  split at h
  · next t' ht => rw [ht, Except.ok.inj h]
  · cases h

theorem exists_table_of_planned {name : String}
    (h : (do TablePlan.ofTable o (← TablePlan.tableOf m name)) = .ok plan) :
    plan.name = name ∧
      ∃ t, m.table? plan.name = some t ∧ TablePlan.ofTable o t = .ok plan := by
  obtain ⟨t, ht, hplan⟩ := bind_eq_ok.mp h
  have htable := table?_of_tableOf ht
  have hname : plan.name = name :=
    (isOf_of_ofTable hplan).name.trans (by simpa using List.find?_some htable)
  exact ⟨hname, t, hname ▸ htable, hplan⟩

theorem exists_table_of_ofOrder {order : List String} {plans : List TablePlan}
    (h : TablePlan.ofOrder o m order = .ok plans) (hplan : plan ∈ plans) :
    ∃ t, m.table? plan.name = some t ∧ TablePlan.ofTable o t = .ok plan := by
  obtain ⟨name, -, hname⟩ := exists_of_mem_mapM h hplan
  exact (exists_table_of_planned hname).2

theorem names_of_ofOrder {order : List String} {plans : List TablePlan}
    (h : TablePlan.ofOrder o m order = .ok plans) : plans.map TablePlan.name = order := by
  have hnames := map_of_mapM (p := id) h fun _ _ hplan => (exists_table_of_planned hplan).1
  rwa [List.map_id] at hnames

theorem isOf_of_tableByTable {order : List String} {plans : List TablePlan} {run : Run}
    {done : List Finished} {f : Finished}
    (hplans : TablePlan.ofOrder o run.model order = .ok plans) (hdone : run.TableByTable done)
    (hplan : f.plan ∈ plans) (hf : f ∈ done) :
    f.IsOf run.model ∧ TablePlan.ofTable o f.table = .ok f.plan := by
  obtain ⟨t, ht, hof⟩ := exists_table_of_ofOrder hplans hplan
  obtain ⟨before, after, rfl⟩ := List.append_of_mem hf
  have htable := table?_of_tableOf hdone.isNext.table
  rw [ht] at htable
  cases htable
  exact ⟨⟨ht, isOf_of_ofTable hof⟩, hof⟩

structure Complete (s : Schema) (out : Output) (run : Run) (done : List Finished) : Prop where
  compiled : s.compile = .ok (run.model, out.order)
  model : run.model.IsOf s
  finished : run.TableByTable done
  planned : ∀ f ∈ done, f.IsOf run.model
  collected : out.tables = done.map Finished.collected

theorem ofSchema_and_order_of_compile {order : List String} (h : s.compile = .ok (m, order)) :
    Model.ofSchema s = .ok m ∧ m.graph.order = .ok order := by
  obtain ⟨m', hm, hrest⟩ := bind_eq_ok.mp h
  split at hrest
  · next order' horder =>
    cases hrest
    exact ⟨hm, horder⟩
  · cases hrest

theorem eq_of_checked {o' : Options} (h : o.checked = .ok o') : o' = o := by
  unfold Options.checked at h
  split at h
  · exact (Except.ok.inj h).symm
  · cases h

theorem generateModel_of_ok {order : List String} {run : Run}
    (h : Run.ofModel o m order seed = .ok run) : generateModel o m order seed = run.generate := by
  unfold generateModel
  rw [h]

theorem generateModel_of_error {order : List String} {e : GenerationError}
    (h : Run.ofModel o m order seed = .error e) :
    generateModel o m order seed = ([], .error e) := by
  unfold generateModel
  rw [h]

/-- A run of a schema under options and a seed, and the plans of all its tables in order. -/
structure Planned (o : Options) (seed : UInt64) (out : Output) (run : Run) (done : List Finished) :
    Prop where
  options : run.options = o
  seed : run.seed = seed
  ofOrder : TablePlan.ofOrder run.options run.model out.order = .ok run.plans
  plans : done.map Finished.plan = run.plans

theorem exists_planned (h : Generation.run s o seed = .ok out) :
    ∃ run done, Complete s out run done ∧ Planned o seed out run done := by
  obtain ⟨o', ho', h⟩ := bind_eq_ok.mp h
  split at h
  · cases h
  · next m order hcompile =>
    split at h
    · next events report hgenerate =>
      cases h
      unfold generateModel at hgenerate
      split at hgenerate
      · next run hrun =>
        obtain ⟨o'', ho'', hrun⟩ := bind_eq_ok.mp hrun
        obtain ⟨plans, hplans, hrun⟩ := bind_eq_ok.mp hrun
        cases hrun
        obtain ⟨done, hdone, -, houtcome⟩ := Run.outcome_generateTables
          (.start : Run.TableByTable ⟨m, o'', seed, plans⟩ []) _ plans
        have hgenerate' : Run.generateTables ⟨m, o'', seed, plans⟩
            (Run.referencesAfter ⟨m, o'', seed, plans⟩ []) _ plans = (events, .ok report) :=
              hgenerate
        rw [hgenerate'] at houtcome
        have hcollected := houtcome.collected.1
        have hmodel := Model.isOf_of_ofSchema (ofSchema_and_order_of_compile hcompile).1
        cases houtcome with
        | complete hall =>
          refine ⟨⟨m, o'', seed, plans⟩, done, ⟨hcompile, hmodel, hdone,
            fun f hf => ?_, hcollected⟩, (eq_of_checked ho'').trans (eq_of_checked ho'), rfl,
            hplans, hall⟩
          exact (isOf_of_tableByTable hplans hdone (hall ▸ List.mem_map_of_mem hf) hf).1
      · cases hgenerate
    · cases h

theorem exists_complete (h : Generation.run s o seed = .ok out) :
    ∃ run done, Complete s out run done := by
  obtain ⟨run, done, hcomplete, -⟩ := exists_planned h
  exact ⟨run, done, hcomplete⟩

/-- What holds of the records of a table if it holds of those of all tables before, holds of all. -/
theorem Complete.induction {run : Run} {done : List Finished} {p : Finished → Prop}
    (h : Complete s out run done)
    (step : ∀ before f, (∀ g ∈ before, g.IsOf run.model ∧ p g) → f.IsOf run.model →
      run.IsNext before f → p f) : ∀ f ∈ done, p f := by
  refine forall_mem_of_before fun before f after heq hbefore => ?_
  subst heq
  refine step before f (fun g hg => ⟨h.planned g ?_, hbefore g hg⟩)
    (h.planned f ?_) h.finished.isNext
  · exact List.mem_append_left _ hg
  · simp

theorem Complete.exists_finished {run : Run} {done : List Finished} (h : Complete s out run done)
    {entry : String × List Record} (hentry : entry ∈ out.tables) :
    ∃ f ∈ done, f.table.name = entry.1 ∧ f.records = entry.2 := by
  rw [h.collected] at hentry
  obtain ⟨f, hf, rfl⟩ := List.mem_map.mp hentry
  exact ⟨f, hf, (h.planned f hf).plan.name.symm, rfl⟩

theorem Complete.mem_tables {run : Run} {done : List Finished} (h : Complete s out run done)
    {f : Finished} (hf : f ∈ done) : (f.table.name, f.records) ∈ out.tables := by
  rw [h.collected, ← (h.planned f hf).plan.name]
  exact List.mem_map_of_mem hf

end

section

section Compiled

variable {s : Schema} {m : Model} {order before after : List String} {name : String}
  {t : Model.Table} {k : ForeignKey}

theorem isOrder_of_compile (h : s.compile = .ok (m, order)) :
    DependencyGraph.IsOrder m.references order :=
  (DependencyGraph.isLeastOrder_of_order (ofSchema_and_order_of_compile h).2).toIsOrder

theorem isOf_of_compile (h : s.compile = .ok (m, order)) : m.IsOf s :=
  Model.isOf_of_ofSchema (ofSchema_and_order_of_compile h).1

theorem mem_order_of_mem_tables (h : s.compile = .ok (m, order)) (ht : t ∈ m.tables) :
    t.name ∈ order :=
  (isOrder_of_compile h).perm.symm.subset
    (DependencyGraph.mem_declaredNames.mpr ⟨_, List.mem_map_of_mem ht, rfl⟩)

theorem exists_table?_of_mem_order (h : s.compile = .ok (m, order)) (hname : name ∈ order) :
    ∃ t, m.table? name = some t :=
  Model.exists_table?_of_declared ((isOrder_of_compile h).perm.subset hname)

theorem parent_mem_before (h : s.compile = .ok (m, order))
    (horder : order = before ++ name :: after)
    (ht : m.table? name = some t) (hk : k ∈ t.foreignKeys) : k.targetTable ∈ before := by
  have hmem := List.mem_of_find?_eq_some ht
  have hname : t.name = name := by simpa using List.find?_some ht
  obtain ⟨target, htarget, -⟩ := (isOf_of_compile h).refers hmem hk
  have hrefers : DependencyGraph.Refers m.references name k.targetTable := by
    refine ⟨List.mem_map.mpr ⟨_, List.mem_map_of_mem (List.mem_of_find?_eq_some htarget), ?_⟩,
      _, List.mem_map_of_mem hmem, hname, List.mem_map_of_mem hk⟩
    simpa using List.find?_some htarget
  exact (isOrder_of_compile h).after _ _ _ horder _ hrefers

end Compiled

variable {s : Schema} {o : Options} {seed : UInt64} {out : Output} {run : Run}
  {order : List String} {done before after : List Finished} {f : Finished} {t : Model.Table}
  {plan : TablePlan} {rest : List TablePlan}

/-- A run of a compiled schema in which some tables are finished and others are left. -/
structure Underway (s : Schema) (order : List String) (run : Run) (done : List Finished)
    (rest : List TablePlan) : Prop where
  compiled : s.compile = .ok (run.model, order)
  finished : run.TableByTable done
  ofOrder : TablePlan.ofOrder run.options run.model order = .ok run.plans
  plans : run.plans = done.map Finished.plan ++ rest

namespace Underway

theorem model (h : Underway s order run done rest) : run.model.IsOf s :=
  isOf_of_compile h.compiled

theorem isOf (h : Underway s order run done rest) (hf : f ∈ done) :
    f.IsOf run.model ∧ TablePlan.ofTable run.options f.table = .ok f.plan := by
  refine isOf_of_tableByTable h.ofOrder h.finished ?_ hf
  rw [h.plans]
  exact List.mem_append_left _ (List.mem_map_of_mem hf)

theorem order_eq (h : Underway s order run done rest) :
    order = done.map (fun f => f.table.name) ++ rest.map TablePlan.name := by
  rw [← names_of_ofOrder h.ofOrder, h.plans, List.map_append, List.map_map]
  exact congrArg (· ++ _) (List.map_congr_left fun f hf => (h.isOf hf).1.plan.name)

theorem nodup_names (h : Underway s order run done rest) :
    (done.map fun f => f.table.name).Nodup := by
  have hnodup : order.Nodup :=
    (isOrder_of_compile h.compiled).perm.nodup_iff.mpr (DependencyGraph.nodup_declaredNames _)
  rw [h.order_eq] at hnodup
  exact (List.nodup_append.mp hnodup).1

theorem exists_parent (h : Underway s order run done (plan :: rest))
    (ht : run.model.table? plan.name = some t) {k : ForeignKey} (hk : k ∈ t.foreignKeys) :
    ∃ g ∈ done, g.table.name = k.targetTable :=
  List.mem_map.mp (parent_mem_before h.compiled h.order_eq ht hk)

/-- For each foreign key of a table the keys of its target are kept when the table comes. -/
theorem exists_parent_set (h : Underway s order run done (plan :: rest))
    (ht : run.model.table? plan.name = some t) (hplan : plan.IsOf t) {k : ForeignKeyPlan}
    (hk : k ∈ plan.foreignKeys) : ∃ g ∈ done, g.table.name = k.targetTable ∧
      (run.referencesAfter done).set? k.targetTable k.targetFields =
        some (keptSet g.table k.targetFields g.rows) := by
  obtain ⟨key, hkey, hof⟩ := hplan.exists_foreignKey hk
  obtain ⟨g, hg, hname⟩ := h.exists_parent ht hkey
  rw [← hof.targetTable] at hname
  have hmem : plan ∈ run.plans := by simp [h.plans]
  refine ⟨g, hg, hname, ?_⟩
  rw [← hname]
  exact set?_referencesAfter h.nodup_names hg (mem_referenceLists hmem hk hname.symm)

end Underway

theorem Complete.ofSchema (h : Complete s out run done) : Model.ofSchema s = .ok run.model :=
  (ofSchema_and_order_of_compile h.compiled).1

theorem Complete.underway (h : Complete s out run done) (hplanned : Planned o seed out run done)
    (hdone : done = before ++ after) :
    Underway s out.order run before (after.map Finished.plan) :=
  ⟨h.compiled, (hdone ▸ h.finished).of_append, hplanned.ofOrder, by
    rw [← hplanned.plans, hdone, List.map_append]⟩

theorem Complete.names (h : Complete s out run done) (hplanned : Planned o seed out run done) :
    done.map (fun f => f.table.name) = out.order := by
  simpa using (h.underway hplanned (List.append_nil done).symm).order_eq.symm

theorem Complete.nodup_names (h : Complete s out run done)
    (hplanned : Planned o seed out run done) :
    (done.map fun f => f.table.name).Nodup :=
  (h.underway hplanned (List.append_nil done).symm).nodup_names

theorem Complete.table_eq_of_name (h : Complete s out run done) (hf : f ∈ done)
    (ht : t ∈ run.model.tables) (hname : t.name = f.table.name) : f.table = t := by
  have hfound := (h.planned f hf).table?_name
  rw [← hname, h.model.table?_of_mem ht] at hfound
  exact (Option.some.inj hfound).symm

theorem Complete.exists_finished_of_table (h : Complete s out run done)
    (hplanned : Planned o seed out run done) (ht : t ∈ run.model.tables) :
    ∃ f ∈ done, f.table = t := by
  have hname : t.name ∈ done.map fun f => f.table.name := by
    rw [h.names hplanned]
    exact mem_order_of_mem_tables h.compiled ht
  obtain ⟨f, hf, hsame⟩ := List.mem_map.mp hname
  exact ⟨f, hf, h.table_eq_of_name hf ht hsame.symm⟩

/-- For each foreign key of a table the keys of its target are kept when the table comes. -/
theorem Complete.exists_parent_set (h : Complete s out run done)
    (hplanned : Planned o seed out run done) (hdone : done = before ++ f :: after)
    {k : ForeignKeyPlan} (hk : k ∈ f.plan.foreignKeys) :
    ∃ g ∈ before, g.table.name = k.targetTable ∧
      (run.referencesAfter before).set? k.targetTable k.targetFields =
        some (keptSet g.table k.targetFields g.rows) :=
  have hof := h.planned f (by simp [hdone])
  (h.underway hplanned hdone).exists_parent_set hof.table hof.plan hk

theorem Complete.ofTable (h : Complete s out run done) (hplanned : Planned o seed out run done)
    (hf : f ∈ done) : TablePlan.ofTable o f.table = .ok f.plan :=
  hplanned.options ▸ ((h.underway hplanned (List.append_nil done).symm).isOf hf).2

end

end Fixtures.Generation
