import Fixtures.Model.Analysis.Field
import Fixtures.Proofs.Domain.Acceptance

namespace Fixtures.Model.Field

structure WellTyped (f : Field) : Prop where
  domain : f.domain.IsOf f.terminal
  default : ∀ v, f.default = some v → v.HasType f.terminal

structure Fits (f : Field) (v : Value) : Prop where
  hasType : v.HasType f.terminal
  admitted : f.domain.refusal? v = none

end Fixtures.Model.Field

namespace Fixtures.Analysis

variable {resolve : Resolution} {t : Table} {f : Field} {g : Model.Field} {d : Domain} {l : Literal}
  {v : Value}

/-- A default is read from its literal. Without complaints about it the domain admits it. -/
theorem reviewDefault_eq_some (h : (reviewDefault d l).1 = some v) :
    ∃ p, d.terminal = .primitive p ∧ Value.ofLiteral? p l = some v ∧
      ((reviewDefault d l).2 = [] → d.admits v = true) := by
  unfold reviewDefault at h ⊢
  cases ht : d.terminal with
  | array item length => simp [ht] at h
  | primitive p =>
    cases hv : Value.ofLiteral? p l with
    | none => simp [ht, hv] at h
    | some w =>
      cases hr : d.refusal? w with
      | none =>
        simp only [ht, hv, hr, Option.some.injEq] at h
        subst h
        exact ⟨p, rfl, hv, fun _ => by rw [Domain.admits, hr, Option.isNone_none]⟩
      | some violated =>
        simp only [ht, hv, hr, Option.some.injEq] at h
        subst h
        exact ⟨p, rfl, hv, by simp [hv, hr]⟩

/-- A field as it comes from its declaration and its type, with what the review complains about. -/
structure IsFieldOf (resolve : Resolution) (complaints : List Diagnostic) (f : Field)
    (g : Model.Field) : Prop where
  name : g.name = f.name
  nullable : g.nullable = !f.modifiers.notNull
  type : ∃ r, resolve f.dataType = .ok r ∧ g.terminal = r.terminal ∧
    g.constraints = f.constraints.filter Constraint.isOnValue ++ r.constraints
  domain : Domain.build g.terminal g.constraints = .ok g.domain
  default : ∀ v, g.default = some v → ∃ p l, f.modifiers.default = some l ∧ l ≠ .null ∧
    g.terminal = .primitive p ∧ Value.ofLiteral? p l = some v ∧
      (complaints = [] → g.domain.admits v = true)

theorem isFieldOf_of_reviewField (h : (reviewField resolve t f).1 = some g) :
    IsFieldOf resolve (reviewField resolve t f).2 f g := by
  unfold reviewField at h ⊢
  cases hr : resolve f.dataType with
  | error e => simp [hr] at h
  | ok r =>
    cases hd : Domain.build r.terminal (f.constraints.filter Constraint.isOnValue ++
      r.constraints) with
    | error e => simp [hr, hd] at h
    | ok domain =>
      simp only [hr, hd, Option.some.injEq] at h ⊢
      subst h
      refine ⟨rfl, rfl, ⟨r, hr, rfl, rfl⟩, hd, fun v hv => ?_⟩
      simp only at hv
      split at hv
      · cases hv
      · cases hv
      · next l hnull hdefault =>
        obtain ⟨p, hp, hl, hadmits⟩ := reviewDefault_eq_some hv
        refine ⟨p, l, hdefault, hnull, ?_, hl, fun hnil => hadmits ?_⟩
        · rw [← hp, (Domain.isOf_of_build hd).terminal]
        · simpa [hdefault] using (List.append_eq_nil_iff.mp hnil).2

structure IsReviewed (resolve : Resolution) (f : Field) (g : Model.Field) : Prop where
  name : g.name = f.name
  nullable : g.nullable = true → f.modifiers.notNull = false
  resolved : ∃ r, resolve f.dataType = .ok r ∧ r.terminal = g.terminal
  wellTyped : g.WellTyped

theorem isReviewed_of_reviewField (h : (reviewField resolve t f).1 = some g) :
    IsReviewed resolve f g := by
  have hof := isFieldOf_of_reviewField h
  obtain ⟨r, hr, hterminal, -⟩ := hof.type
  refine ⟨hof.name, by simp [hof.nullable], ⟨r, hr, hterminal.symm⟩,
    Domain.isOf_of_build hof.domain, fun v hv => ?_⟩
  obtain ⟨p, l, -, hnull, hp, hl, -⟩ := hof.default v hv
  rw [hp]
  exact Value.kind?_of_ofLiteral? hl hnull

theorem reviewField_isSome_of_nil (h : (reviewField resolve t f).2 = []) :
    ∃ g, (reviewField resolve t f).1 = some g := by
  unfold reviewField at h ⊢
  cases hr : resolve f.dataType with
  | error e => simp [hr] at h
  | ok r =>
    cases hd : Domain.build r.terminal (f.constraints.filter Constraint.isOnValue ++
      r.constraints) with
    | error e => simp [hr, hd] at h
    | ok domain =>
      simp only [hd]
      exact ⟨_, rfl⟩

end Fixtures.Analysis
