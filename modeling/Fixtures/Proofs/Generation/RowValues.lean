import Fixtures.Generation.Run
import Fixtures.Proofs.Generation.FieldValues

namespace Fixtures.Generation

open Fixtures.Random

variable {α β : Type} {p q : α → Prop}

/-- Every value that a draw gives has a property. Nothing is said about draws that end with an
error. -/
def GivesRow (d : RowDraw α) (p : α → Prop) : Prop :=
  Gives d.run fun r => ∀ a, r = .ok a → p a

theorem givesRow_pure {a : α} (h : p a) : GivesRow (pure a) p :=
  gives_pure fun b hb => by
    cases hb
    exact h

theorem givesRow_throw (e : GenerationError) : GivesRow (throw e) p :=
  gives_pure fun b hb => by cases hb

theorem GivesRow.bind {d : RowDraw α} {f : α → RowDraw β} {r : β → Prop} (hd : GivesRow d p)
    (hf : ∀ a, p a → GivesRow (f a) r) : GivesRow (d >>= f) r := by
  unfold GivesRow
  rw [ExceptT.run_bind]
  refine Gives.bind hd fun result hresult => ?_
  cases result with
  | error e => exact gives_pure fun b hb => by cases hb
  | ok a => exact hf a (hresult a rfl)

theorem givesRow_lift {d : Draw α} (h : Gives d p) : GivesRow (liftM d) p := by
  refine Gives.bind h fun a ha => gives_pure fun b hb => ?_
  cases hb
  exact ha

theorem GivesRow.onSeed {d : RowDraw α} (h : GivesRow d p) {seed : UInt64} {a : α}
    (ha : d.onSeed seed = .ok a) : p a := by
  unfold RowDraw.onSeed at ha
  split at ha
  · next result t hrun => exact h _ _ _ hrun a ha
  · cases ha

theorem gives_reference (s : ReferenceSet) (d : Distribution) :
    Gives (s.draw d) fun drawn => ∀ tuple, drawn = some tuple → tuple ∈ s.tuples := by
  unfold ReferenceSet.draw
  split
  · exact gives_pure (by simp)
  · exact (gives_true _).bind fun i _ => gives_pure fun tuple h => List.mem_of_getElem? h

namespace TableJob

variable {job : TableJob}

/-- A key of the target table that the fields of a foreign key admit. -/
structure Drawn (job : TableJob) (k : ForeignKeyPlan) (tuple : List Value) : Prop where
  kept : ∃ set, job.references.set? k.targetTable k.targetFields = some set ∧ tuple ∈ set.tuples
  admitted : job.refusedMember? k tuple = none

theorem gives_resolve (r : References) (table : String) (k : ForeignKeyPlan) :
    Gives (r.resolve table k) fun result => ∀ tuple, result = .ok tuple →
      ∃ set, r.set? k.targetTable k.targetFields = some set ∧ tuple ∈ set.tuples := by
  unfold References.resolve
  cases hset : r.set? k.targetTable k.targetFields with
  | none =>
    refine Gives.bind (p := fun drawn => drawn = none) (gives_pure rfl) fun drawn hdrawn => ?_
    subst hdrawn
    exact gives_pure fun tuple h => by cases h
  | some set =>
    refine (gives_reference set k.distribution).bind fun drawn hdrawn => ?_
    cases drawn with
    | none => exact gives_pure fun tuple h => by cases h
    | some key =>
      refine gives_pure fun tuple h => ?_
      cases h
      exact ⟨set, rfl, hdrawn key rfl⟩

theorem givesRow_parentKey (k : ForeignKeyPlan) (attempts : Nat) (last : Nat × String) :
    GivesRow (job.parentKey k attempts last) (job.Drawn k) := by
  induction attempts generalizing last with
  | zero => exact givesRow_throw _
  | succ attempts ih =>
    refine GivesRow.bind (gives_resolve job.references job.plan.name k) fun tuple hkept => ?_
    split
    · next hadmitted => exact givesRow_pure ⟨hkept, hadmitted⟩
    · exact ih _

def overlay (values : List Value) (picks : List (ForeignKeyPlan × List Value)) : List Value :=
  picks.foldl (fun vs p => setAll vs (p.1.fields.zip p.2)) values

structure Picked (job : TableJob) (picks : List (ForeignKeyPlan × List Value)) : Prop where
  keys : picks.map Prod.fst = job.plan.foreignKeys
  drawn : ∀ p ∈ picks, job.Drawn p.1 p.2

theorem givesRow_foreignValues (values : List Value) (ks : List ForeignKeyPlan) :
    GivesRow (job.foreignValues values ks) fun out => ∃ picks, picks.map Prod.fst = ks ∧
      (∀ p ∈ picks, job.Drawn p.1 p.2) ∧ out = overlay values picks := by
  induction ks generalizing values with
  | nil => exact givesRow_pure ⟨[], by simp [overlay]⟩
  | cons k ks ih =>
    refine (givesRow_parentKey k _ _).bind fun tuple htuple => ?_
    refine Gives.mono (ih _) fun result hresult out hout => ?_
    obtain ⟨picks, hkeys, hdrawn, heq⟩ := hresult out hout
    refine ⟨(k, tuple) :: picks, by simp [hkeys], ?_, heq⟩
    exact List.forall_mem_cons.mpr ⟨htuple, hdrawn⟩

/-- What a field comes to have in place of what the foreign keys leave there. -/
inductive Filled (plan : FieldPlan) (field : Model.Field) (current : Value) : Value → Prop
  | reference : plan.foreignKey.isSome = true → Filled plan field current current
  | blank : plan.foreignKey = none → plan.nullable = true → Filled plan field current current
  | made {v : Value} : plan.foreignKey = none → (field.WellTyped → field.Fits v) →
      Filled plan field current v

theorem givesRow_fieldValue (row attempt : Nat) (plan : FieldPlan) (field : Model.Field)
    (current : Value) :
    GivesRow (job.fieldValue row attempt plan field current) (Filled plan field current) := by
  unfold fieldValue
  split
  · next hforeign => exact givesRow_pure (.reference hforeign)
  · next hforeign =>
    have hnone : plan.foreignKey = none := by simpa using hforeign
    have hleft : Gives (leftNull plan) fun left => left = true → plan.nullable = true := by
      unfold leftNull
      split
      · next hnullable => exact (gives_true _).mono fun _ _ _ => hnullable
      · exact gives_pure (by simp)
    refine (givesRow_lift hleft).bind fun left hnullable => ?_
    split
    · next hleft => exact givesRow_pure (.blank hnone (hnullable hleft))
    · have hvalue : Gives _ _ := fun s result t h hwell =>
        ValueRequest.gives_value
          (q := ⟨field, plan, row, job.ordinal row attempt, job.options.baseDate⟩) hwell
          job.options.maxAttemptsValue s result t h
      refine (givesRow_lift hvalue).bind fun result hresult => ?_
      split
      · next v => exact givesRow_pure (.made hnone fun hwell => hresult hwell v rfl)
      · exact givesRow_throw _

theorem givesRow_fieldValues {r : FieldPlan → Model.Field → Value → Value → Prop}
    {row attempt : Nat}
    (h : ∀ plan field current, GivesRow (job.fieldValue row attempt plan field current)
      (r plan field current))
    (entries : List (FieldPlan × Model.Field × Value)) :
    GivesRow (job.fieldValues row attempt entries) fun values =>
      values.length = entries.length ∧ ∀ (i : Nat) plan field current v,
        entries[i]? = some (plan, field, current) → values[i]? = some v →
          r plan field current v := by
  induction entries with
  | nil => exact givesRow_pure (by simp)
  | cons entry entries ih =>
    obtain ⟨plan, field, current⟩ := entry
    refine (h plan field current).bind fun v hv => ?_
    refine GivesRow.bind ih fun values hvalues => givesRow_pure ⟨by simp [hvalues.1], ?_⟩
    intro i plan' field' current' v' hentry hv'
    cases i with
    | zero =>
      simp only [List.getElem?_cons_zero, Option.some.injEq, Prod.mk.injEq] at hentry hv'
      obtain ⟨rfl, rfl, rfl⟩ := hentry
      exact hv' ▸ hv
    | succ i => exact hvalues.2 i plan' field' current' v' hentry hv'

/-- The values of an attempt: keys of other tables laid over each other, and all other fields
filled. -/
structure Attempted (job : TableJob) (picks : List (ForeignKeyPlan × List Value))
    (values : List Value) : Prop where
  picked : job.Picked picks
  length : values.length = ((job.plan.fields.zip (job.table.fields.zip
    (overlay (List.replicate job.plan.fields.length .null) picks)))).length
  filled : ∀ (i : Nat) plan field current v, job.plan.fields[i]? = some plan →
    job.table.fields[i]? = some field →
    (overlay (List.replicate job.plan.fields.length .null) picks)[i]? = some current →
    values[i]? = some v → Filled plan field current v

theorem attempted_of_rowValues {row attempt : Nat} {values : List Value}
    (h : job.rowValues row attempt = .ok values) : ∃ picks, job.Attempted picks values := by
  have hdraw : GivesRow (job.drawValues row attempt) fun values =>
      ∃ picks, job.Attempted picks values := by
    refine (givesRow_foreignValues _ _).bind fun foreign hforeign => ?_
    obtain ⟨picks, hkeys, hdrawn, rfl⟩ := hforeign
    refine Gives.mono (givesRow_fieldValues (givesRow_fieldValue row attempt) _)
      fun result hresult values hvalues => ?_
    obtain ⟨hlength, hfilled⟩ := hresult values hvalues
    refine ⟨picks, ⟨hkeys, hdrawn⟩, hlength,
      fun i plan field current v hplan hfield hcurrent hv => ?_⟩
    exact hfilled i plan field current v
      (by simp [List.getElem?_zip_eq_some, hplan, hfield, hcurrent]) hv
  exact hdraw.onSeed h

theorem emptyParent?_eq_none_of_rowValues {row attempt : Nat} {values : List Value}
    (h : job.rowValues row attempt = .ok values) : job.emptyParent? = none := by
  obtain ⟨picks, ⟨hkeys, hdrawn⟩, -, -⟩ := attempted_of_rowValues h
  unfold emptyParent?
  split
  · rfl
  · rw [Option.map_eq_none_iff, List.find?_eq_none]
    intro k hk hzero
    rw [← hkeys] at hk
    obtain ⟨p, hp, rfl⟩ := List.mem_map.mp hk
    obtain ⟨set, hset, hmem⟩ := (hdrawn p hp).kept
    have hpos := List.length_pos_of_mem hmem
    simp only [References.keyCount, hset, decide_eq_true_eq] at hzero
    omega

end TableJob

end Fixtures.Generation
