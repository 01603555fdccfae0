import Fixtures.Proofs.Domain.Acceptance
import Fixtures.Proofs.Model.Field
import Fixtures.Proofs.Typing.Answers

namespace Fixtures

/-- A resolved type with the terminal of another one and the constraints of that after some
others. -/
structure ResolvedType.Refines (t a : ResolvedType) (more : List Constraint) : Prop where
  terminal : t.terminal = a.terminal
  constraints : t.constraints = more ++ a.constraints

namespace ResolvedType.Refines

variable {t a b : ResolvedType} {more further : List Constraint} {d e : Domain} {v : Value}

theorem refl (t : ResolvedType) : t.Refines t [] :=
  ⟨rfl, rfl⟩

theorem trans (h : t.Refines a more) (h' : a.Refines b further) : t.Refines b (more ++ further) :=
  ⟨h.terminal.trans h'.terminal, by rw [h.constraints, h'.constraints, List.append_assoc]⟩

theorem admits (h : t.Refines a more) (hd : Domain.build t.terminal t.constraints = .ok d)
    (he : Domain.build a.terminal a.constraints = .ok e) (hv : d.admits v = true) :
    e.admits v = true := by
  rw [h.terminal, h.constraints] at hd
  exact (Domain.narrower_of_build hd he (List.subset_append_right _ _)).admits hv

end ResolvedType.Refines

namespace TypeRegistry

variable {r : TypeRegistry} {name base ancestor : String} {t : ResolvedType}

theorem EndsAt.of_hasBase (h : r.EndsAt name t) (hbase : r.HasBase name base) :
    ∃ b, r.EndsAt base b ∧ t.Refines b (r.own name) := by
  obtain ⟨terminal, constraints, chain⟩ := t
  obtain ⟨last, d, hlast, hd, hterminal⟩ := h.terminal
  have hstarts := h.walk.starts
  have hconstraints := h.constraints
  dsimp only at hlast hterminal hstarts hconstraints
  match chain, hstarts with
  | [_], rfl =>
    cases hlast
    simp [hbase.terminal?_eq_none hd] at hterminal
  | _ :: next :: rest, rfl =>
    obtain ⟨hnext, hlinked⟩ := List.isChain_cons_cons.mp h.walk.linked
    obtain rfl : next = base := hnext.unique hbase
    refine ⟨⟨terminal, (next :: rest).flatMap r.own, next :: rest⟩,
      ⟨⟨rfl, hlinked, (List.nodup_cons.mp h.walk.nodup).2⟩, ⟨last, d, ?_, hd, hterminal⟩, rfl⟩, rfl,
      ?_⟩
    · rw [← hlast, List.getLast?_cons_cons]
    · rw [hconstraints, List.flatMap_cons]

theorem EndsAt.of_ancestor (h : r.EndsAt name t)
    (hancestor : Relation.ReflTransGen r.HasBase name ancestor) :
    ∃ a more, r.EndsAt ancestor a ∧ t.Refines a more := by
  induction hancestor with
  | refl => exact ⟨t, [], h, .refl t⟩
  | tail _ hbase ih =>
    obtain ⟨a, more, hends, hrefines⟩ := ih
    obtain ⟨b, hends', hrefines'⟩ := hends.of_hasBase hbase
    exact ⟨b, _, hends', hrefines.trans hrefines'⟩

theorem resolveName_eq_ok (calls : List Call) :
    ((ofCalls calls).resolveName name).1 = .ok t ↔ (ofCalls calls).EndsAt name t := by
  have hcomes := comesTo_resolveName (coherent_ofCalls calls) name
  rw [← comesTo_ok]
  exact ⟨fun h => h ▸ hcomes, fun h => hcomes.unique h⟩

/-- A type that resolves narrows its base by constraints of its own, and so each of its ancestors:
what its domain admits, and what that of a field of the type admits, is admitted by the domain of
the ancestor. -/
theorem derived_types_narrow (calls : List Call) (name : String) (t : ResolvedType)
    (h : ((ofCalls calls).resolveName name).1 = .ok t) :
    (∀ base, (ofCalls calls).HasBase name base →
      ∃ b, ((ofCalls calls).resolveName base).1 = .ok b ∧ t.Refines b ((ofCalls calls).own name)) ∧
    ∀ ancestor, Relation.ReflTransGen (ofCalls calls).HasBase name ancestor →
      ∃ a more, ((ofCalls calls).resolveName ancestor).1 = .ok a ∧ t.Refines a more ∧
        (∀ d e, Domain.build t.terminal t.constraints = .ok d →
          Domain.build a.terminal a.constraints = .ok e →
          ∀ v, d.admits v = true → e.admits v = true) ∧
        ∀ table field g, field.dataType = .custom name →
          (Analysis.reviewField (fun type => ((ofCalls calls).resolve type).1) table field).1 =
              some g →
            g.terminal = a.terminal ∧
            g.constraints = field.constraints.filter Constraint.isOnValue ++ more ++ a.constraints ∧
            ∀ e, Domain.build a.terminal a.constraints = .ok e →
              ∀ v, g.domain.admits v = true → e.admits v = true := by
  have hends := (resolveName_eq_ok calls).mp h
  constructor
  · intro base hbase
    obtain ⟨b, hb, hrefines⟩ := hends.of_hasBase hbase
    exact ⟨b, (resolveName_eq_ok calls).mpr hb, hrefines⟩
  · intro ancestor hancestor
    obtain ⟨a, more, ha, hrefines⟩ := hends.of_ancestor hancestor
    refine ⟨a, more, (resolveName_eq_ok calls).mpr ha, hrefines, fun d e hd he v hv =>
      hrefines.admits hd he hv, ?_⟩
    intro table field g htype hg
    have hfield := Analysis.isFieldOf_of_reviewField hg
    obtain ⟨s, hs, hterminal, hconstraints⟩ := hfield.type
    rw [htype] at hs
    obtain rfl : t = s := Except.ok.inj (h.symm.trans hs)
    have hown : ({ t with constraints := g.constraints } : ResolvedType).Refines t
        (field.constraints.filter Constraint.isOnValue) := ⟨rfl, hconstraints⟩
    have hall := hown.trans hrefines
    have hdomain := hfield.domain
    rw [hterminal] at hdomain ⊢
    exact ⟨hrefines.terminal, hall.constraints, fun e he v hv => hall.admits hdomain he hv⟩

def idDecl : TypeDecl where
  name := "id"
  base := .primitive .string
  constraints := [.length none (some 12)]

def codeDecl : TypeDecl where
  name := "code"
  base := .custom "id"
  constraints := [.length (some 2) none]

def tagDecl : TypeDecl where
  name := "tag"
  base := .custom "code"
  constraints := [.enum [.text "ab", .text "b"]]

/-- The second type is remembered before there is a third that is derived from it. -/
def tagCalls : List Call :=
  [.define idDecl, .define codeDecl, .resolveName "code", .define tagDecl]

def tagType : ResolvedType where
  terminal := .primitive .string
  constraints := [.enum [.text "ab", .text "b"], .length (some 2) none, .length none (some 12)]
  chain := ["tag", "code", "id"]

theorem derived_types_narrow_tag :
    ((ofCalls tagCalls).resolveName "tag").1 = .ok tagType ∧
    Relation.ReflTransGen (ofCalls tagCalls).HasBase "tag" "id" ∧
    ∃ a more, ((ofCalls tagCalls).resolveName "id").1 = .ok a ∧ tagType.Refines a more ∧
      ∃ d e, Domain.build tagType.terminal tagType.constraints = .ok d ∧
        Domain.build a.terminal a.constraints = .ok e ∧ d.admits (.text "ab") = true ∧
        ∀ v, d.admits v = true → e.admits v = true := by
  have htag : ((ofCalls tagCalls).resolveName "tag").1 = .ok tagType := by decide +kernel
  have hid : ((ofCalls tagCalls).resolveName "id").1 =
      .ok ⟨.primitive .string, [.length none (some 12)], ["id"]⟩ := by decide +kernel
  have htagBase : (ofCalls tagCalls).HasBase "tag" "code" := ⟨tagDecl, by decide +kernel, rfl⟩
  have hcodeBase : (ofCalls tagCalls).HasBase "code" "id" := ⟨codeDecl, by decide +kernel, rfl⟩
  have hbases : Relation.ReflTransGen (ofCalls tagCalls).HasBase "tag" "id" :=
    .head htagBase (.single hcodeBase)
  obtain ⟨a, more, ha, hrefines, hadmits, -⟩ :=
    (derived_types_narrow tagCalls "tag" tagType htag).2 "id" hbases
  obtain rfl := Except.ok.inj (hid.symm.trans ha)
  exact ⟨htag, hbases, _, more, hid, hrefines, _, _, rfl, rfl, by decide +kernel,
    hadmits _ _ rfl rfl⟩

end TypeRegistry

end Fixtures
