import Fixtures.Proofs.Domain.Merging
import Fixtures.Proofs.Value.Kind

namespace Fixtures.Domain

variable {t : Terminal} {c : Constraint} {cs cs' : List Constraint} {d e : Domain} {added : Draft}
  {parts : List Draft} {v : Value} {check : ValueCheck}

theorem exists_literal_of_enumValues {p : Primitive} {label : String} {literals : List Literal}
    {values : List Value} (h : enumValues p label literals = .ok values) (hv : v ∈ values) :
    ∃ l ≠ .null, Value.ofLiteral? p l = some v := by
  obtain ⟨l, -, hl⟩ := exists_of_mem_mapM h hv
  split at hl
  · cases hl
  · next w hnull hw =>
    cases hl
    refine ⟨l, ?_, hw⟩
    rintro rfl
    exact hnull (Option.some.inj (hw.symm.trans Value.ofLiteral?_null))
  · cases hl

theorem kind?_of_enumValues {p : Primitive} {label : String} {literals : List Literal}
    {values : List Value} (h : enumValues p label literals = .ok values) (hv : v ∈ values) :
    v.kind? = some p := by
  obtain ⟨l, hl, hliteral⟩ := exists_literal_of_enumValues h hv
  exact Value.kind?_of_ofLiteral? hliteral hl

structure IsOf (t : Terminal) (d : Domain) : Prop where
  terminal : d.terminal = t
  allowed : ∀ values, d.allowed = some values → ∀ v ∈ values, v.kind? = some t.element

theorem kind?_of_part {c : Constraint} {added : Draft} (h : part t c = .ok added)
    {values : List Value}
    (hvalues : values ∈ added.enums) {v : Value} (hv : v ∈ values) : v.kind? = some t.element := by
  cases adds_of_part h with
  | enum hlisted =>
    rw [List.mem_singleton.mp hvalues] at hv
    exact kind?_of_enumValues hlisted hv
  | _ => cases hvalues

theorem isOf_of_build {constraints : List Constraint} {d : Domain}
    (h : build t constraints = .ok d) : d.IsOf t := by
  obtain ⟨parts, hparts, hbuilt⟩ := built_of_build h
  refine ⟨hbuilt.terminal, fun values hvalues => ?_⟩
  cases hbuilt with
  | free =>
    rw [snap_allowed, together, foldl_merge_type.2] at hvalues
    cases hvalues
  | @listed first rest henums =>
    cases hvalues
    intro v hv
    have hfirst : first ∈ parts.flatMap (·.enums) := by
      rw [← enums_together, henums]
      exact List.mem_cons_self
    obtain ⟨added, hadded, hmem⟩ := List.mem_flatMap.mp hfirst
    obtain ⟨c, -, hpart⟩ := exists_of_mem_mapM hparts hadded
    exact kind?_of_part hpart hmem (List.mem_filter.mp hv).1

/-- A constraint accepts a value if all that it adds to a domain of the type does. -/
def Accepts (t : Terminal) (v : Value) (c : Constraint) : Prop :=
  ∃ added, part t c = .ok added ∧
    ∀ check ∈ added.domain.lengthChecks ++ added.domain.elementChecks, check.admits v = true

theorem accepts_iff (hadded : part t c = .ok added) : Accepts t v c ↔
    ∀ check ∈ added.domain.lengthChecks ++ added.domain.elementChecks, check.admits v = true := by
  unfold Accepts
  simp [hadded]

theorem accepts_of_not_isOnValue (h : c.isOnValue = false) : Accepts t v c := by
  cases c <;> first | exact ⟨_, rfl, by simp [unconstrained]⟩ | cases h

theorem firstRefusal?_eq_none {checks : List ValueCheck} :
    firstRefusal? checks v = none ↔ ∀ check ∈ checks, check.admits v = true := by
  simp [firstRefusal?]

theorem forall_mem_parts {p : Draft → Prop} (hparts : cs.mapM (part t) = .ok parts) :
    (∀ added ∈ parts, p added) ↔ ∀ c ∈ cs, ∃ added, part t c = .ok added ∧ p added := by
  constructor
  · intro h c hc
    obtain ⟨added, hadded, hpart⟩ := mem_of_mapM hparts hc
    exact ⟨added, hpart, h added hadded⟩
  · intro h added hadded
    obtain ⟨c, hc, hpart⟩ := exists_of_mem_mapM hparts hadded
    obtain ⟨other, hother, hp⟩ := h c hc
    cases hpart.symm.trans hother
    exact hp

theorem admits_iff_of_build {p : Primitive} (h : build (.primitive p) cs = .ok d) (hv : v ≠ .null) :
    d.admits v = true ↔ ∀ c ∈ cs, Accepts (.primitive p) v c := by
  obtain ⟨parts, hparts, hbuilt⟩ := built_of_build h
  obtain ⟨helement, hlength⟩ := hbuilt.checks
  have hrefusal : d.refusal? v = (d.lengthRefusal? v <|> d.elementRefusal? v) := by
    unfold refusal?
    rw [hbuilt.terminal]
    cases v <;> first | rfl | exact absurd rfl hv
  have hnone : d.refusal? v = none ↔ d.lengthRefusal? v = none ∧ d.elementRefusal? v = none := by
    rw [hrefusal]
    cases d.lengthRefusal? v <;> simp
  rw [admits, Option.isNone_iff_eq_none, hnone, lengthRefusal?, elementRefusal?,
    firstRefusal?_eq_none, firstRefusal?_eq_none, hlength, helement]
  unfold Accepts
  rw [← forall_mem_parts hparts]
  simp only [List.mem_flatMap, List.mem_append]
  constructor
  · rintro ⟨hl, he⟩ added hadded check (hcheck | hcheck)
    · exact hl check ⟨added, hadded, hcheck⟩
    · exact he check ⟨added, hadded, hcheck⟩
  · intro hall
    exact ⟨fun check ⟨added, hadded, hcheck⟩ => hall added hadded check (.inl hcheck),
      fun check ⟨added, hadded, hcheck⟩ => hall added hadded check (.inr hcheck)⟩

theorem orElse_eq_none {a b : Option String} : (a <|> b) = none ↔ a = none ∧ b = none := by
  cases a <;> simp

/-- A domain of the same type with all the checks of another one, and perhaps more. -/
structure Narrower (d e : Domain) : Prop where
  terminal : d.terminal = e.terminal
  element : ∀ check ∈ e.elementChecks, check ∈ d.elementChecks
  length : ∀ check ∈ e.lengthChecks, check ∈ d.lengthChecks

namespace Narrower

theorem elementRefusal? (h : d.Narrower e) (hv : d.elementRefusal? v = none) :
    e.elementRefusal? v = none :=
  firstRefusal?_eq_none.mpr fun check hcheck =>
  firstRefusal?_eq_none.mp hv check (h.element check hcheck)

theorem lengthRefusal? (h : d.Narrower e) (hv : d.lengthRefusal? v = none) :
    e.lengthRefusal? v = none :=
  firstRefusal?_eq_none.mpr fun check hcheck =>
  firstRefusal?_eq_none.mp hv check (h.length check hcheck)

theorem refusal? (h : d.Narrower e) (hv : d.refusal? v = none) : e.refusal? v = none := by
  unfold Domain.refusal? fixedLengthRefusal? at hv ⊢
  rw [h.terminal] at hv
  split at hv
  · rfl
  · rw [orElse_eq_none, orElse_eq_none, List.findSome?_eq_none_iff] at hv ⊢
    obtain ⟨hfixed, hlength, hitems⟩ := hv
    exact ⟨hfixed, h.lengthRefusal? hlength, fun item hitem =>
      h.elementRefusal? (hitems item hitem)⟩
  · cases hv
  · rw [orElse_eq_none] at hv ⊢
    exact ⟨h.lengthRefusal? hv.1, h.elementRefusal? hv.2⟩

theorem admits (h : d.Narrower e) (hv : d.admits v = true) : e.admits v = true := by
  rw [Domain.admits, Option.isNone_iff_eq_none] at hv ⊢
  exact h.refusal? hv

end Narrower

theorem mem_checks_of_build (h : build t cs = .ok d) :
    (check ∈ d.elementChecks ↔ ∃ c ∈ cs, ∃ added, part t c = .ok added ∧
        check ∈ added.domain.elementChecks) ∧
    (check ∈ d.lengthChecks ↔ ∃ c ∈ cs, ∃ added, part t c = .ok added ∧
        check ∈ added.domain.lengthChecks) := by
  obtain ⟨parts, hparts, hbuilt⟩ := built_of_build h
  obtain ⟨helement, hlength⟩ := hbuilt.checks
  have hmem : ∀ checks : Draft → List ValueCheck, check ∈ parts.flatMap checks ↔
      ∃ c ∈ cs, ∃ added, part t c = .ok added ∧ check ∈ checks added := by
    intro checks
    rw [List.mem_flatMap]
    constructor
    · rintro ⟨added, hadded, hcheck⟩
      obtain ⟨c, hc, hpart⟩ := exists_of_mem_mapM hparts hadded
      exact ⟨c, hc, added, hpart, hcheck⟩
    · rintro ⟨c, hc, added, hpart, hcheck⟩
      obtain ⟨other, hother, hpart'⟩ := mem_of_mapM hparts hc
      cases hpart.symm.trans hpart'
      exact ⟨added, hother, hcheck⟩
  rw [helement, hlength]
  exact ⟨hmem _, hmem _⟩

theorem narrower_of_build (hd : build t cs = .ok d) (he : build t cs' = .ok e) (h : cs' ⊆ cs) :
    d.Narrower e where
  terminal := (isOf_of_build hd).terminal.trans (isOf_of_build he).terminal.symm
  element := by
    intro check hcheck
    obtain ⟨c, hc, hadds⟩ := (mem_checks_of_build he).1.mp hcheck
    exact (mem_checks_of_build hd).1.mpr ⟨c, h hc, hadds⟩
  length := by
    intro check hcheck
    obtain ⟨c, hc, hadds⟩ := (mem_checks_of_build he).2.mp hcheck
    exact (mem_checks_of_build hd).2.mpr ⟨c, h hc, hadds⟩

end Fixtures.Domain
