import Fixtures.Proofs.Generation.ErrorSources
import Fixtures.Proofs.Generation.RowValues

namespace Fixtures

namespace Generation

open Fixtures.Random

variable {α β : Type} {q : GenerationError → Prop} {e : GenerationError}

def FailsRow (d : RowDraw α) (q : GenerationError → Prop) : Prop :=
  Gives d.run fun r => ∀ e, r = .error e → q e

theorem failsRow_pure (a : α) : FailsRow (pure a) q :=
  gives_pure fun e he => by cases he

theorem failsRow_throw (h : q e) : FailsRow (throw e : RowDraw α) q :=
  gives_pure fun e' he => by
    cases he
    exact h

theorem FailsRow.bind {d : RowDraw α} {f : α → RowDraw β} (hd : FailsRow d q)
    (hf : ∀ a, FailsRow (f a) q) : FailsRow (d >>= f) q := by
  unfold FailsRow
  rw [ExceptT.run_bind]
  refine Gives.bind hd fun result hresult => ?_
  cases result with
  | error e =>
    refine gives_pure fun e' he => ?_
    cases he
    exact hresult e rfl
  | ok a => exact hf a

theorem failsRow_lift (d : Draw α) : FailsRow (liftM d) q :=
  (gives_true d).bind fun _ _ => gives_pure fun e he => by cases he

theorem FailsRow.bind_lift {d : Draw α} {p : α → Prop} {f : α → RowDraw β} (hd : Gives d p)
    (hf : ∀ a, p a → FailsRow (f a) q) : FailsRow (liftM d >>= f) q := by
  unfold FailsRow
  rw [ExceptT.run_bind]
  refine Gives.bind (p := fun r => ∃ a, r = .ok a ∧ p a) ?_ fun r hr => ?_
  · exact hd.bind fun a ha => gives_pure ⟨a, rfl, ha⟩
  · obtain ⟨a, rfl, ha⟩ := hr
    exact hf a ha

theorem FailsRow.onSeed {d : RowDraw α} (h : FailsRow d q) {seed : UInt64}
    (he : d.onSeed seed = .error e) :
    q e ∨ ∃ f, e = .fault f ∧ d.run (Random.Source.ofSeed seed) = .error f := by
  unfold RowDraw.onSeed at he
  split at he
  · next result t hrun => exact .inl (h _ _ _ hrun e he)
  · next f hrun =>
    cases he
    exact .inr ⟨f, rfl, hrun⟩

section Keys

variable {tuples : List (List Value)}

open ReferenceSet

theorem length_runningSums (total : Float) (xs : List Float) :
    (runningSums total xs).length = xs.length := by
  induction xs generalizing total with
  | nil => rfl
  | cons x xs ih => simp [runningSums, ih]

theorem gives_weightedIndex {sums : List Float} (h : sums ≠ []) :
    Gives (weightedIndex sums) fun i => i < sums.length := by
  have hpos := List.length_pos_iff.mpr h
  exact (gives_true _).bind fun _ _ => gives_pure (by omega)

theorem gives_index_ofTuples (h : tuples ≠ []) (d : Distribution) :
    Gives ((ReferenceSet.ofTuples tuples).index d) fun i => i < tuples.length := by
  have hpos := List.length_pos_iff.mpr h
  have hweights : ∀ weights : List Float, weights.length = tuples.length →
      Gives (weightedIndex (runningSums 0.0 weights)) fun i => i < tuples.length := by
    intro weights hlength
    rw [← hlength, ← length_runningSums 0.0 weights] at hpos ⊢
    exact gives_weightedIndex (List.length_pos_iff.mp hpos)
  cases d with
  | uniform => exact gives_index hpos
  | zipf => exact hweights _ (by simp [zipfWeights, ranks])
  | normal => exact hweights _ (by simp [normalWeights, ranks])

theorem gives_draw_ofTuples (h : tuples ≠ []) (d : Distribution) :
    Gives ((ReferenceSet.ofTuples tuples).draw d) fun drawn => ∃ tuple, drawn = some tuple := by
  unfold ReferenceSet.draw
  have hsome : (ReferenceSet.ofTuples tuples).tuples.isEmpty = false := by
    simpa [ReferenceSet.ofTuples] using h
  rw [hsome]
  exact (gives_index_ofTuples h d).bind fun i hi => gives_pure ⟨_, List.getElem?_eq_getElem hi⟩

end Keys

namespace TableJob

variable {job : TableJob} {k : ForeignKeyPlan} {row : Nat}

def HasKeysFor (job : TableJob) (k : ForeignKeyPlan) : Prop :=
  ∃ tuples, tuples ≠ [] ∧
    job.references.set? k.targetTable k.targetFields = some (.ofTuples tuples)

theorem gives_resolve_of_hasKeys (h : job.HasKeysFor k) (table : String) :
    Gives (job.references.resolve table k) fun result => ∃ tuple, result = .ok tuple := by
  obtain ⟨tuples, hne, hset⟩ := h
  unfold References.resolve
  rw [hset]
  refine (gives_draw_ofTuples hne k.distribution).bind fun drawn hdrawn => ?_
  obtain ⟨tuple, rfl⟩ := hdrawn
  exact gives_pure ⟨tuple, rfl⟩

/-- A text that names a constraint which a value of some field violates. It is empty if no value is
made. -/
inductive Violation (job : TableJob) : String → Prop
  | refused {field : Model.Field} {v : Value} {text : String} : field ∈ job.table.fields →
      field.domain.refusal? v = some text → Violation job text
  | none : job.options.maxAttemptsValue = 0 → Violation job ""

inductive ValueError (job : TableJob) : GenerationError → Prop
  | violated (field : String) {text : String} : job.Violation text →
      ValueError job (.unsatisfiable job.plan.name field text)
  | noKeys {k : ForeignKeyPlan} : k ∈ job.plan.foreignKeys → ¬ job.HasKeysFor k →
      ValueError job (.emptyReferenceSet job.plan.name k.targetTable)

theorem violation_of_refusedMember? {tuple : List Value} {i : Nat} {text : String}
    (h : job.refusedMember? k tuple = some (i, text)) : job.Violation text := by
  obtain ⟨⟨j, v⟩, -, hfound⟩ := List.exists_of_findSome?_eq_some h
  obtain ⟨text', hrefused, heq⟩ := Option.map_eq_some_iff.mp hfound
  cases heq
  obtain ⟨d, hd, hrefusal⟩ := Option.bind_eq_some_iff.mp hrefused
  obtain ⟨field, hfield, rfl⟩ := Option.map_eq_some_iff.mp hd
  exact .refused (List.mem_of_getElem? hfield) hrefusal

theorem gives_resolve_error (r : References) (table : String) (k : ForeignKeyPlan) :
    Gives (r.resolve table k) fun result => ∀ e, result = .error e →
      e = .emptyReferenceSet table k.targetTable := by
  unfold References.resolve
  simp only
  split <;>
    · refine (gives_true _).bind fun drawn _ => ?_
      cases drawn with
      | some tuple => exact gives_pure fun e he => by cases he
      | none => exact gives_pure fun e he => (Except.error.inj he).symm

theorem failsRow_resolve (hk : k ∈ job.plan.foreignKeys) :
    FailsRow (job.references.resolve job.plan.name k) job.ValueError := by
  by_cases hkeys : job.HasKeysFor k
  · refine (gives_resolve_of_hasKeys hkeys job.plan.name).mono fun result hresult e he => ?_
    obtain ⟨tuple, rfl⟩ := hresult
    cases he
  · refine (gives_resolve_error _ _ _).mono fun result hresult e he => ?_
    rw [hresult e he]
    exact .noKeys hk hkeys

theorem failsRow_parentKey (hk : k ∈ job.plan.foreignKeys) (attempts : Nat) (last : Nat × String)
    (hlast : attempts = 0 → job.Violation last.2) :
    FailsRow (job.parentKey k attempts last) job.ValueError := by
  induction attempts generalizing last with
  | zero => exact failsRow_throw (.violated _ (hlast rfl))
  | succ attempts ih =>
    refine (failsRow_resolve hk).bind fun tuple => ?_
    split
    · exact failsRow_pure _
    · next refused hrefused => exact ih _ fun _ => violation_of_refusedMember? hrefused

theorem failsRow_foreignValues {ks : List ForeignKeyPlan} (h : ∀ k ∈ ks, k ∈ job.plan.foreignKeys)
    (values : List Value) : FailsRow (job.foreignValues values ks) job.ValueError := by
  induction ks generalizing values with
  | nil => exact failsRow_pure _
  | cons k ks ih =>
    obtain ⟨hk, hks⟩ := List.forall_mem_cons.mp h
    exact (failsRow_parentKey hk _ _ .none).bind fun tuple => ih hks _

theorem gives_search_error (q : ValueRequest) (synthetic attempts : Nat) (last : String) :
    Gives (q.search synthetic attempts last) fun result => ∀ text, result = .error text →
      (attempts = 0 ∧ text = last) ∨ ∃ v, q.field.domain.refusal? v = some text := by
  induction attempts generalizing synthetic last with
  | zero =>
    refine gives_pure fun text h => ?_
    cases h
    exact .inl ⟨rfl, rfl⟩
  | succ attempts ih =>
    refine (gives_true _).bind fun v _ => ?_
    split
    · exact gives_pure fun text h => by cases h
    · next violated hviolated =>
      refine (ih (synthetic - 1) violated).mono fun result hresult text htext => .inr ?_
      rcases hresult text htext with ⟨-, rfl⟩ | hrefused
      · exact ⟨v, hviolated⟩
      · exact hrefused

theorem failsRow_fieldValue {row attempt : Nat} {plan : FieldPlan} {field : Model.Field}
    {current : Value} (hfield : field ∈ job.table.fields) :
    FailsRow (job.fieldValue row attempt plan field current) job.ValueError := by
  unfold fieldValue
  split
  · exact failsRow_pure _
  · refine (failsRow_lift _).bind fun left => ?_
    split
    · exact failsRow_pure _
    · refine FailsRow.bind_lift (gives_search_error _ _ _ _) fun result hresult => ?_
      split
      · exact failsRow_pure _
      · next violated =>
        refine failsRow_throw (.violated _ ?_)
        rcases hresult violated rfl with ⟨hnone, rfl⟩ | ⟨v, hv⟩
        · exact .none hnone
        · exact .refused hfield hv

theorem failsRow_fieldValues {row attempt : Nat}
    {entries : List (FieldPlan × Model.Field × Value)}
    (h : ∀ entry ∈ entries, entry.2.1 ∈ job.table.fields) :
    FailsRow (job.fieldValues row attempt entries) job.ValueError := by
  induction entries with
  | nil => exact failsRow_pure _
  | cons entry entries ih =>
    obtain ⟨plan, field, current⟩ := entry
    obtain ⟨hfield, hrest⟩ := List.forall_mem_cons.mp h
    exact (failsRow_fieldValue hfield).bind fun v => (ih hrest).bind fun vs => failsRow_pure _

theorem failsRow_drawValues (row attempt : Nat) :
    FailsRow (job.drawValues row attempt) job.ValueError := by
  refine (failsRow_foreignValues (fun _ hk => hk) _).bind fun foreign => failsRow_fieldValues ?_
  rintro ⟨plan, field, current⟩ hentry
  exact (List.of_mem_zip (List.of_mem_zip hentry).2).1

/-- An attempt at a row fails with a value or a key that is wanting, or else with a fault of its
draws. -/
theorem valueError_of_rowValues {attempt : Nat} (h : job.rowValues row attempt = .error e) :
    job.ValueError e ∨ ∃ f, e = .fault f ∧
      (job.drawValues row attempt).run (Random.Source.ofSeed (rowSeed job.seed row attempt)) =
        .error f :=
  (failsRow_drawValues row attempt).onSeed h

theorem exists_emptyParent? (hcount : job.plan.count ≠ 0) (hk : k ∈ job.plan.foreignKeys)
    (hzero : job.references.keyCount k.targetTable k.targetFields = 0) :
    ∃ target, job.emptyParent? = some target := by
  unfold emptyParent?
  rw [if_neg hcount, ← Option.isSome_iff_exists, Option.isSome_map, List.find?_isSome]
  exact ⟨k, hk, by simpa using hzero⟩

def KeepsSets (job : TableJob) : Prop :=
  ∀ k ∈ job.plan.foreignKeys, ∃ tuples,
    job.references.set? k.targetTable k.targetFields = some (.ofTuples tuples)

theorem hasKeys_of_emptyParent? (hkept : job.KeepsSets) (hcount : job.plan.count ≠ 0)
    (h : job.emptyParent? = none) : ∀ k ∈ job.plan.foreignKeys, job.HasKeysFor k := by
  intro k hk
  obtain ⟨tuples, hset⟩ := hkept k hk
  refine ⟨tuples, ?_, hset⟩
  rintro rfl
  obtain ⟨target, htarget⟩ := exists_emptyParent? hcount hk
    (by simp [References.keyCount, hset, ReferenceSet.ofTuples])
  simp [h] at htarget

theorem emptyParent?_eq_some {target : String} (h : job.emptyParent? = some target) :
    job.plan.count ≠ 0 ∧ ∃ k ∈ job.plan.foreignKeys, k.targetTable = target ∧
      job.references.keyCount k.targetTable k.targetFields = 0 := by
  unfold emptyParent? at h
  split at h
  · cases h
  · next hcount =>
    obtain ⟨k, hfound, rfl⟩ := Option.map_eq_some_iff.mp h
    exact ⟨hcount, k, List.mem_of_find?_eq_some hfound, rfl, by simpa using List.find?_some hfound⟩

/-- Only a table that asks for rows, and that has a foreign key without keys to draw, fails for want
of them. -/
theorem emptyParent?_of_generate (hkept : job.KeepsSets) {table target : String}
    (h : job.generate.2 = .error (.emptyReferenceSet table target)) :
    table = job.plan.name ∧ job.emptyParent? = some target := by
  rcases errorSource_of_generate h with ⟨target', hparent, heq⟩ | ⟨hparent, hsource⟩
  · cases heq
    exact ⟨rfl, hparent⟩
  · generalize herror : GenerationError.emptyReferenceSet table target = e at hsource
    cases hsource with
    | values hrow hvalues =>
      subst herror
      rcases valueError_of_rowValues hvalues with hwanting | ⟨f, hfault, -⟩
      · cases hwanting with
        | noKeys hk hnone =>
          exact absurd (hasKeys_of_emptyParent? hkept (by omega) hparent _ hk) hnone
      · cases hfault
    | check | key | noAttempts => cases herror

theorem generate_of_count_eq_zero (h : job.plan.count = 0) :
    ∃ report, job.generate.2 = .ok ([], report) := by
  have hparent : job.emptyParent? = none := by
    unfold emptyParent?
    rw [if_pos h]
  have hrows : job.generateFrom 0 (.ofKeys job.plan.keys) = ([], .ok []) := by
    unfold generateFrom
    rw [if_neg (by omega)]
  unfold generate
  rw [hparent]
  simp only [hrows]
  exact ⟨_, rfl⟩

end TableJob

end Generation

end Fixtures
