import Fixtures.Domain.Basic
import Fixtures.Proofs.Outcome
import Mathlib.Control.Monad.Basic

namespace Fixtures

namespace Bounds

variable {α : Type} [LT α] [DecidableLT α]

theorem tighten_unbounded (b : Bounds α) : b.tighten unbounded = b :=
  rfl

theorem unbounded_tighten (b : Bounds α) : unbounded.tighten b = b := by
  obtain ⟨low, high⟩ := b
  cases low <;> cases high <;> rfl

end Bounds

namespace Domain

variable {t : Terminal} {draft next : Draft} {c : Constraint} {cs : List Constraint} {d : Domain}

def part (t : Terminal) (c : Constraint) : Except DomainError Draft :=
  Draft.add ⟨unconstrained t, []⟩ c

def Draft.merge (a b : Draft) : Draft where
  domain := { a.domain with
    numeric := a.domain.numeric.tighten b.domain.numeric
    temporal := a.domain.temporal.tighten b.domain.temporal
    length := a.domain.length.tighten b.domain.length
    patterns := a.domain.patterns ++ b.domain.patterns
    elementChecks := a.domain.elementChecks ++ b.domain.elementChecks
    lengthChecks := a.domain.lengthChecks ++ b.domain.lengthChecks }
  enums := a.enums ++ b.enums

theorem add_eq_map_part (ht : draft.domain.terminal = t) :
    draft.add c = draft.merge <$> part t c := by
  subst ht
  cases c with
  | primaryKey | foreignKey | unique | check =>
    simp [part, Draft.add, Draft.merge, unconstrained, Bounds.tighten_unbounded]
  | range low high =>
    by_cases hnumeric : draft.domain.terminal.element.isNumeric = true
    · simp [part, Draft.add, unconstrained, hnumeric, Draft.merge, Bounds.unbounded_tighten,
        Bounds.tighten_unbounded]
    · by_cases htemporal : draft.domain.terminal.element.isTemporal = true
      · simp [part, Draft.add, unconstrained, hnumeric, htemporal, Draft.merge,
          Bounds.unbounded_tighten, Bounds.tighten_unbounded]
      · simp [part, Draft.add, unconstrained, hnumeric, htemporal]
  | pattern regex =>
    by_cases hstring : draft.domain.terminal.element = .string
    · cases hcompile : Regex.Expression.compile regex with
      | error reason =>
        simp [part, Draft.add, unconstrained, hstring, hcompile, throw, throwThe,
          MonadExceptOf.throw]
      | ok expression =>
        simp [part, Draft.add, unconstrained, hstring, hcompile, Draft.merge,
          Bounds.tighten_unbounded]
    · simp [part, Draft.add, unconstrained, hstring]
  | length low high =>
    by_cases hlength : hasLength draft.domain.terminal = true
    · simp [part, Draft.add, unconstrained, hlength, Draft.merge, Bounds.unbounded_tighten,
        Bounds.tighten_unbounded]
    · simp [part, Draft.add, unconstrained, hlength]
  | enum literals =>
    simp [part, Draft.add, unconstrained, Draft.merge, Bounds.tighten_unbounded]

theorem nonEmpty_eq_ok {α : Type} [LT α] [DecidableLT α] {label : String} {b bounds : Bounds α} :
    nonEmpty label b = .ok bounds ↔ b = bounds ∧ b.isEmpty = false := by
  unfold nonEmpty
  cases b.isEmpty <;> simp

inductive Adds (t : Terminal) : Constraint → Draft → Prop
  | nothing {c : Constraint} : c.isOnValue = false → Adds t c ⟨unconstrained t, []⟩
  | numeric {low high : Option Literal} {bounds : Bounds Float} :
      t.element.isNumeric = true →
      numericBound (Constraint.range low high).label low = .ok bounds.min →
      numericBound (Constraint.range low high).label high = .ok bounds.max →
      bounds.isEmpty = false →
      Adds t (.range low high) { domain := {
        terminal := t
        numeric := bounds
        elementChecks := [.numeric (Constraint.range low high).label bounds] } }
  | temporal {low high : Option Literal} {bounds : Bounds Timestamp} :
      t.element.isTemporal = true →
      temporalBound (Constraint.range low high).label low = .ok bounds.min →
      temporalBound (Constraint.range low high).label high = .ok bounds.max →
      bounds.isEmpty = false →
      Adds t (.range low high) { domain := {
        terminal := t
        temporal := bounds
        elementChecks := [.temporal (Constraint.range low high).label bounds] } }
  | pattern {regex : String} {expression : Regex.Expression} :
      t.element = .string → Regex.Expression.compile regex = .ok expression →
      Adds t (.pattern regex) { domain := {
        terminal := t
        patterns := [regex]
        elementChecks := [.pattern (Constraint.pattern regex).label expression] } }
  | enum {literals : List Literal} {values : List Value} :
      enumValues t.element (Constraint.enum literals).label literals = .ok values →
      Adds t (.enum literals) {
        domain := {
          terminal := t
          elementChecks := [.enum (Constraint.enum literals).label (values.map Value.key)] }
        enums := [values] }
  | length {low high : Option Nat} :
      hasLength t = true → (Bounds.mk low high).isEmpty = false →
      Adds t (.length low high) { domain := {
        terminal := t
        length := ⟨low, high⟩
        lengthChecks := [.length (Constraint.length low high).label ⟨low, high⟩] } }

theorem adds_of_part {added : Draft} (h : part t c = .ok added) : Adds t c added := by
  cases c with
  | primaryKey | foreignKey | unique | check =>
    cases h
    exact .nothing rfl
  | range low high =>
    simp only [part, Draft.add, unconstrained, Bounds.unbounded_tighten] at h
    split at h
    · next hnumeric =>
      simp only [bind_eq_ok, nonEmpty_eq_ok] at h
      obtain ⟨_, hlow, _, hhigh, bounds, ⟨rfl, hbounds⟩, heq⟩ := h
      cases heq
      exact .numeric hnumeric hlow hhigh hbounds
    · split at h
      · next htemporal =>
        simp only [bind_eq_ok, nonEmpty_eq_ok] at h
        obtain ⟨_, hlow, _, hhigh, bounds, ⟨rfl, hbounds⟩, heq⟩ := h
        cases heq
        exact .temporal htemporal hlow hhigh hbounds
      · cases h
  | pattern regex =>
    unfold part Draft.add at h
    simp only at h
    split at h
    · next hstring =>
      split at h
      · next hcompile =>
        cases h
        exact .pattern hstring hcompile
      · cases h
    · cases h
  | length low high =>
    simp only [part, Draft.add, unconstrained, Bounds.unbounded_tighten] at h
    split at h
    · next hlength =>
      simp only [bind_eq_ok, nonEmpty_eq_ok] at h
      obtain ⟨bounds, ⟨rfl, hbounds⟩, heq⟩ := h
      cases heq
      exact .length hlength hbounds
    · cases h
  | enum literals =>
    simp only [part, Draft.add, unconstrained, bind_eq_ok] at h
    obtain ⟨values, hvalues, heq⟩ := h
    cases heq
    exact .enum hvalues

section Errors

variable {label : String} {e : DomainError}

/-- The label of the constraint that an error is about, if it is about one. -/
def constraint? : DomainError → Option String
  | .inapplicable label _ => some label
  | .badBound label => some label
  | .inverted label => some label
  | .badPattern label _ => some label
  | .badEnumValue label => some label
  | .noOverlap => none
  | .noEnumValue => none

theorem constraint?_of_numericBound {l : Option Literal} (h : numericBound label l = .error e) :
    constraint? e = some label := by
  unfold numericBound at h
  split at h
  · cases h
  · cases h
  · split at h <;> cases h
    rfl

theorem constraint?_of_temporalBound {l : Option Literal} (h : temporalBound label l = .error e) :
    constraint? e = some label := by
  unfold temporalBound at h
  split at h
  · cases h
  · cases h
  · split at h <;> cases h
    rfl
  · cases h
    rfl

theorem constraint?_of_nonEmpty {α : Type} [LT α] [DecidableLT α] {b : Bounds α}
    (h : nonEmpty label b = .error e) : constraint? e = some label := by
  unfold nonEmpty at h
  split at h <;> cases h
  rfl

theorem constraint?_of_enumValues {p : Primitive} {literals : List Literal}
    (h : enumValues p label literals = .error e) : constraint? e = some label := by
  obtain ⟨l, -, hl⟩ := exists_of_mapM_eq_error h
  split at hl <;> cases hl <;> rfl

theorem constraint?_of_part (h : part t c = .error e) : constraint? e = some c.label := by
  cases c with
  | primaryKey | foreignKey | unique | check => cases h
  | range low high =>
    unfold part Draft.add at h
    simp only at h
    split at h
    · simp only [bind_eq_error] at h
      rcases h with h | ⟨_, -, h | ⟨_, -, h | ⟨_, -, h⟩⟩⟩
      · exact constraint?_of_numericBound h
      · exact constraint?_of_numericBound h
      · exact constraint?_of_nonEmpty h
      · cases h
    · split at h
      · simp only [bind_eq_error] at h
        rcases h with h | ⟨_, -, h | ⟨_, -, h | ⟨_, -, h⟩⟩⟩
        · exact constraint?_of_temporalBound h
        · exact constraint?_of_temporalBound h
        · exact constraint?_of_nonEmpty h
        · cases h
      · cases h
        rfl
  | pattern regex =>
    unfold part Draft.add at h
    simp only at h
    split at h
    · split at h <;> cases h
      rfl
    · cases h
      rfl
  | length low high =>
    unfold part Draft.add at h
    simp only at h
    split at h
    · rcases bind_eq_error.mp h with h | ⟨_, -, h⟩
      · exact constraint?_of_nonEmpty h
      · cases h
    · cases h
      rfl
  | enum literals =>
    unfold part Draft.add at h
    rcases bind_eq_error.mp h with h | ⟨_, -, h⟩
    · exact constraint?_of_enumValues h
    · cases h

end Errors

theorem foldlM_add (ht : draft.domain.terminal = t) :
    cs.foldlM Draft.add draft =
        (fun parts => parts.foldl Draft.merge draft) <$> cs.mapM (part t) := by
  induction cs generalizing draft with
  | nil => rfl
  | cons c cs ih =>
    rw [List.foldlM_cons, List.mapM_cons, add_eq_map_part ht]
    have hmerge : ∀ part : Draft, (draft.merge part).domain.terminal = t := fun _ => ht
    simp [ih (hmerge _)]

variable {parts : List Draft}

/-- What a list of constraints adds to the domain of a type, put together. -/
def together (t : Terminal) (parts : List Draft) : Draft :=
  parts.foldl Draft.merge ⟨unconstrained t, []⟩

theorem foldl_merge_type : (parts.foldl Draft.merge draft).domain.terminal = draft.domain.terminal ∧
    (parts.foldl Draft.merge draft).domain.allowed = draft.domain.allowed := by
  induction parts generalizing draft with
  | nil => exact ⟨rfl, rfl⟩
  | cons part parts ih => exact ih

theorem foldl_merge_checks : (parts.foldl Draft.merge draft).domain.elementChecks =
      draft.domain.elementChecks ++ parts.flatMap (·.domain.elementChecks) ∧
    (parts.foldl Draft.merge draft).domain.lengthChecks =
      draft.domain.lengthChecks ++ parts.flatMap (·.domain.lengthChecks) ∧
    (parts.foldl Draft.merge draft).enums = draft.enums ++ parts.flatMap (·.enums) := by
  induction parts generalizing draft with
  | nil => simp
  | cons part parts ih => simp [ih, Draft.merge]

theorem enums_together : (together t parts).enums = parts.flatMap (·.enums) := by
  rw [together, foldl_merge_checks.2.2]
  rfl

theorem snap_terminal (d : Domain) : d.snap.terminal = d.terminal := by
  unfold snap
  cases d.terminal.fixedLength? <;> simp only <;> split <;> rfl

theorem snap_allowed (d : Domain) : d.snap.allowed = d.allowed := by
  unfold snap
  cases d.terminal.fixedLength? <;> simp only <;> split <;> rfl

theorem checks_snap (d : Domain) :
    d.snap.elementChecks = d.elementChecks ∧ d.snap.lengthChecks = d.lengthChecks := by
  unfold snap
  cases d.terminal.fixedLength? <;> simp only <;> split <;> exact ⟨rfl, rfl⟩

def contradicts (d : Domain) : Bool :=
  d.numeric.isEmpty || d.temporal.isEmpty || d.length.isEmpty

theorem build_eq : build t cs = (cs.mapM (part t) >>= fun parts =>
    if (together t parts).domain.snap.contradicts then .error .noOverlap
    else
      match (together t parts).enums with
      | [] => .ok (together t parts).domain.snap
      | first :: rest =>
        if (commonValues (together t parts).domain.snap first rest).isEmpty then .error .noEnumValue
        else .ok { (together t parts).domain.snap with
          allowed := some (commonValues (together t parts).domain.snap first rest) }) := by
  have hstart : cs.foldlM Draft.add ⟨unconstrained t, []⟩ = together t <$> cs.mapM (part t) :=
    foldlM_add rfl
  unfold build
  rw [hstart]
  cases cs.mapM (part t) <;> rfl

section Outcomes

variable (hparts : cs.mapM (part t) = .ok parts)
include hparts

theorem build_of_contradicts (h : (together t parts).domain.snap.contradicts = true) :
    build t cs = .error .noOverlap := by
  rw [build_eq, hparts]
  exact if_pos h

theorem build_of_free (h : (together t parts).domain.snap.contradicts = false)
    (henums : (together t parts).enums = []) : build t cs = .ok (together t parts).domain.snap := by
  rw [build_eq, hparts]
  refine (if_neg (by simp [h])).trans ?_
  rw [henums]

theorem build_of_listed {first : List Value} {rest : List (List Value)}
    (h : (together t parts).domain.snap.contradicts = false)
    (henums : (together t parts).enums = first :: rest) :
    build t cs =
      if (commonValues (together t parts).domain.snap first rest).isEmpty then .error .noEnumValue
      else .ok { (together t parts).domain.snap with
        allowed := some (commonValues (together t parts).domain.snap first rest) } := by
  rw [build_eq, hparts]
  refine (if_neg (by simp [h])).trans ?_
  rw [henums]

end Outcomes

theorem contradicts_of_build (h : build t cs = .ok d) (hparts : cs.mapM (part t) = .ok parts) :
    (together t parts).domain.snap.contradicts = false := by
  cases hbounds : (together t parts).domain.snap.contradicts with
  | false => rfl
  | true => cases (build_of_contradicts hparts hbounds).symm.trans h

inductive Built (t : Terminal) (parts : List Draft) : Domain → Prop
  | free : (together t parts).enums = [] → Built t parts (together t parts).domain.snap
  | listed {first : List Value} {rest : List (List Value)} :
      (together t parts).enums = first :: rest →
      commonValues (together t parts).domain.snap first rest ≠ [] →
      Built t parts { (together t parts).domain.snap with
        allowed := some (commonValues (together t parts).domain.snap first rest) }

theorem built_of_build (h : build t cs = .ok d) :
    ∃ parts, cs.mapM (part t) = .ok parts ∧ Built t parts d := by
  cases hparts : cs.mapM (part t) with
  | error e =>
    rw [build_eq, hparts] at h
    cases h
  | ok parts =>
    refine ⟨parts, rfl, ?_⟩
    cases hbounds : (together t parts).domain.snap.contradicts with
    | true =>
      rw [build_of_contradicts hparts hbounds] at h
      cases h
    | false =>
      cases henums : (together t parts).enums with
      | nil =>
        rw [build_of_free hparts hbounds henums] at h
        cases h
        exact .free henums
      | cons first rest =>
        rw [build_of_listed hparts hbounds henums] at h
        split at h
        · cases h
        · next hsome =>
          cases h
          exact .listed henums fun hnil => hsome (by rw [hnil]; rfl)

theorem Built.terminal (h : Built t parts d) : d.terminal = t := by
  have hterminal : (together t parts).domain.snap.terminal = t :=
    (snap_terminal _).trans foldl_merge_type.1
  cases h <;> exact hterminal

theorem checks_snap_together :
    (together t parts).domain.snap.elementChecks = parts.flatMap (·.domain.elementChecks) ∧
      (together t parts).domain.snap.lengthChecks = parts.flatMap (·.domain.lengthChecks) := by
  rw [(checks_snap _).1, (checks_snap _).2, together, foldl_merge_checks.1, foldl_merge_checks.2.1]
  exact ⟨rfl, rfl⟩

theorem Built.checks (h : Built t parts d) :
    d.elementChecks = parts.flatMap (·.domain.elementChecks) ∧
    d.lengthChecks = parts.flatMap (·.domain.lengthChecks) := by
  cases h <;> exact checks_snap_together

end Domain

end Fixtures
