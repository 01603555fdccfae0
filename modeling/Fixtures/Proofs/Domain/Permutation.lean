import Fixtures.Proofs.Domain.Enums
import Fixtures.Proofs.Domain.MergedChecks
import Fixtures.Proofs.Json.Finite

namespace Fixtures.Domain

variable {t : Terminal} {p : Primitive} {c c' : Constraint} {cs cs' : List Constraint}
    {parts parts' : List Draft}
  {d e : Domain} {v w : Value} {values others first : List Value} {rest : List (List Value)}

theorem numeric_of_part {added : Draft} (ht : t.element.isNumeric = false)
    (h : part t c = .ok added) :
    added.domain.numeric = .unbounded := by
  cases adds_of_part h with
  | numeric hnumeric => cases ht.symm.trans hnumeric
  | _ => rfl

theorem numeric_together (ht : t.element.isNumeric = false)
    (hparts : cs.mapM (part t) = .ok parts) :
    (together t parts).domain.numeric = .unbounded := by
  have hall : ∀ b ∈ parts.map (·.domain.numeric), b = .unbounded := by
    intro b hb
    obtain ⟨added, hadded, rfl⟩ := List.mem_map.mp hb
    obtain ⟨c, -, hpart⟩ := exists_of_mem_mapM hparts hadded
    exact numeric_of_part ht hpart
  rw [together, foldl_merge_bounds.1]
  refine List.foldlRecOn (motive := fun b : Bounds Float => b = .unbounded) _ _ rfl fun b hb c hc =>
    ?_
  rw [hb, hall c hc]
  rfl

theorem sameBounds_of_perm (ht : t.element.isNumeric = false)
    (hparts : cs.mapM (part t) = .ok parts)
    (hparts' : cs'.mapM (part t) = .ok parts') (h : parts.Perm parts') :
    SameBounds (together t parts).domain (together t parts').domain where
  terminal := foldl_merge_type.1.trans foldl_merge_type.1.symm
  numeric := (numeric_together ht hparts).trans (numeric_together ht hparts').symm
  temporal := by
    rw [together, together, foldl_merge_bounds.2, foldl_merge_bounds.2]
    exact Bounds.foldl_tighten_perm (h.map _)
  length := by
    rw [together, together, foldl_merge_length, foldl_merge_length]
    exact Bounds.foldl_tighten_perm (h.map _)

theorem exists_isFinite_of_listed? (h : listed? .json c = some values) (hv : v ∈ values) :
    ∃ j, v = .json j ∧ j.IsFinite := by
  cases c with
  | enum literals =>
    obtain ⟨l, hl, hliteral⟩ := exists_literal_of_enumValues (toOption_eq_some.mp h) hv
    exact Value.exists_isFinite_of_ofLiteral? hliteral hl
  | _ => cases h

/-- Values that enums of a type list are told apart by their texts, unless the type is of
fractions. -/
theorem eq_of_key_eq_of_listed? (hdecimal : p ≠ .decimal) (hlisted : listed? p c = some values)
    (hlisted' : listed? p c' = some others) (hv : v ∈ values) (hw : w ∈ others)
    (h : v.key = w.key) : v = w := by
  by_cases hjson : p = .json
  · subst hjson
    obtain ⟨j, rfl, hj⟩ := exists_isFinite_of_listed? hlisted hv
    obtain ⟨j', rfl, hj'⟩ := exists_isFinite_of_listed? hlisted' hw
    rw [Json.compact_injective hj hj' h]
  · exact Value.eq_of_key_eq (legible_of_listed? hdecimal hjson hlisted hv)
      (legible_of_listed? hdecimal hjson hlisted' hw)
      ((kind?_of_listed? hlisted hv).trans (kind?_of_listed? hlisted' hw).symm) h

theorem mem_commonValues_iff_all (hdecimal : t.element ≠ .decimal)
    (hlisted : cs.filterMap (listed? t.element) = first :: rest) :
    v ∈ commonValues d first rest ↔
      (∀ values ∈ cs.filterMap (listed? t.element), v ∈ values) ∧ d.elementRefusal? v = none := by
  rw [mem_commonValues, hlisted, List.forall_mem_cons, and_assoc]
  refine and_congr_right fun hfirst => and_congr_left fun _ => forall₂_congr fun values hvalues =>
    ?_
  obtain ⟨c, -, hc⟩ := List.mem_filterMap.mp (hlisted ▸ List.mem_cons_self :
    first ∈ cs.filterMap (listed? t.element))
  obtain ⟨c', -, hc'⟩ := List.mem_filterMap.mp (hlisted ▸ List.mem_cons_of_mem _ hvalues :
    values ∈ cs.filterMap (listed? t.element))
  constructor
  · rintro ⟨other, hother, hkey⟩
    exact eq_of_key_eq_of_listed? hdecimal hc' hc hother hfirst hkey ▸ hother
  · exact fun hv => ⟨v, hv, rfl⟩

/-- Domains that differ at most in the order of what they offer and of what they check. -/
structure Alike (d e : Domain) : Prop where
  temporal : d.temporal = e.temporal
  length : d.length = e.length
  allowed : Option.Rel (fun values others => ∀ v, v ∈ values ↔ v ∈ others) d.allowed e.allowed
  admits : ∀ v, d.admits v = e.admits v

theorem admits_eq_of_perm (hd : build t cs = .ok d) (he : build t cs' = .ok e) (h : cs.Perm cs')
    (v : Value) :
    d.admits v = e.admits v := by
  rw [Bool.eq_iff_iff]
  exact ⟨(narrower_of_build hd he h.symm.subset).admits, (narrower_of_build he hd h.subset).admits⟩

theorem ne_decimal (h : p.isNumeric = false) : p ≠ .decimal := by
  rintro rfl
  cases h

/-- Enums offer the same values in any order of the constraints, with the one that comes first among
them. -/
theorem mem_commonValues_iff_of_perm {first' : List Value} {rest' : List (List Value)}
    (ht : t.element.isNumeric = false) (h : cs.Perm cs') (hparts : cs.mapM (part t) = .ok parts)
    (hparts' : cs'.mapM (part t) = .ok parts')
    (hlisted : cs.filterMap (listed? t.element) = first :: rest)
    (hlisted' : cs'.filterMap (listed? t.element) = first' :: rest') :
    v ∈ commonValues (together t parts).domain.snap first rest ↔
      v ∈ commonValues (together t parts').domain.snap first' rest' := by
  rw [mem_commonValues_iff_all (ne_decimal ht) hlisted,
    mem_commonValues_iff_all (ne_decimal ht) hlisted',
    elementRefusal?_eq_none hparts checks_snap_together.1,
    elementRefusal?_eq_none hparts' checks_snap_together.1]
  exact and_congr (forall_congr' fun values => imp_congr_left (h.filterMap _).mem_iff)
    (forall_congr' fun c => imp_congr_left h.mem_iff)

theorem exists_build_of_perm (ht : t.element.isNumeric = false) (h : cs.Perm cs')
    (hd : build t cs = .ok d) :
    ∃ e, build t cs' = .ok e ∧ d.Alike e := by
  obtain ⟨parts, hparts, hbuilt⟩ := built_of_build hd
  obtain ⟨parts', hparts', hperm⟩ := perm_of_mapM hparts h
  have hsame := (sameBounds_of_perm ht hparts hparts' hperm).snap
  have hcontradicts : (together t parts').domain.snap.contradicts = false :=
    hsame.contradicts_eq.symm.trans (contradicts_of_build hd hparts)
  have henums : (together t parts).enums = cs.filterMap (listed? t.element) :=
    enums_together.trans (flatMap_enums hparts)
  have henums' : (together t parts').enums = cs'.filterMap (listed? t.element) :=
    enums_together.trans (flatMap_enums hparts')
  have hlists : (cs.filterMap (listed? t.element)).Perm (cs'.filterMap (listed? t.element)) :=
    h.filterMap _
  cases hbuilt with
  | free hnone =>
    rw [← henums, ← henums', hnone, List.nil_perm] at hlists
    have hbuild := build_of_free hparts' hcontradicts hlists
    refine ⟨_, hbuild, hsame.temporal, hsame.length, ?_, admits_eq_of_perm hd hbuild h⟩
    rw [snap_allowed, snap_allowed, together, together, foldl_merge_type.2, foldl_merge_type.2]
    exact .none
  | @listed first rest hcons hsome =>
    have hlisted := henums.symm.trans hcons
    obtain ⟨first', rest', hlisted'⟩ : ∃ first' rest', cs'.filterMap (listed? t.element) =
        first' :: rest' := by
      refine List.exists_cons_of_ne_nil fun hnil => ?_
      rw [hlisted, hnil] at hlists
      exact List.not_perm_nil_cons first rest hlists.symm
    have hcommon : ∀ v, v ∈ commonValues (together t parts).domain.snap first rest ↔
        v ∈ commonValues (together t parts').domain.snap first' rest' := fun v =>
      mem_commonValues_iff_of_perm ht h hparts hparts' hlisted hlisted'
    obtain ⟨v, hv⟩ := List.exists_mem_of_ne_nil _ hsome
    have hbuild := build_of_listed hparts' hcontradicts (henums'.trans hlisted')
    rw [if_neg fun hempty => List.ne_nil_of_mem ((hcommon v).mp hv) (List.isEmpty_iff.mp hempty)]
      at hbuild
    exact ⟨_, hbuild, hsame.temporal, hsame.length, .some hcommon, admits_eq_of_perm hd hbuild h⟩

/-- The order of constraints does not matter: there is a domain for all orders or for none, with the
same bounds, the same values offered and the same values admitted. -/
theorem build_perm (ht : t.element.isNumeric = false) (h : cs.Perm cs') :
    ((∃ d, build t cs = .ok d) ↔ ∃ e, build t cs' = .ok e) ∧
      ∀ d e, build t cs = .ok d → build t cs' = .ok e → d.Alike e := by
  refine ⟨⟨fun ⟨d, hd⟩ => ?_, fun ⟨e, he⟩ => ?_⟩, fun d e hd he => ?_⟩
  · exact (exists_build_of_perm ht h hd).imp fun e he => he.1
  · exact (exists_build_of_perm ht h.symm he).imp fun d hd => hd.1
  · obtain ⟨e', he', halike⟩ := exists_build_of_perm ht h hd
    cases he'.symm.trans he
    exact halike

def documents : List Constraint :=
  [.enum [.text "[1, 2.5]", .text " true ", .text "\"a\""], .length (some 1) none,
    .enum [.text "true", .text "[1,25e-1]"]]

def offeredKeys (t : Terminal) (cs : List Constraint) : Option (List String) :=
  (build t cs).toOption.map fun d => (d.allowed.getD []).map Value.key

theorem build_perm_documents : (Terminal.array .json none).element.isNumeric = false ∧
    documents.Perm documents.reverse ∧
    offeredKeys (.array .json none) documents = some ["[1,2.5]", "true"] ∧
    offeredKeys (.array .json none) documents.reverse = some ["true", "[1,2.5]"] ∧
    ∃ d e, build (.array .json none) documents = .ok d ∧
      build (.array .json none) documents.reverse = .ok e ∧
      d.Alike e := by
  have hperm : documents.Perm documents.reverse := documents.reverse_perm.symm
  have hagree := build_perm (t := .array .json none) rfl hperm
  have hkeys : offeredKeys (.array .json none) documents = some ["[1,2.5]", "true"] := by
    decide +kernel
  have hkeys' : offeredKeys (.array .json none) documents.reverse = some ["true", "[1,2.5]"] := by
    decide +kernel
  obtain ⟨d, hd, -⟩ := Option.map_eq_some_iff.mp hkeys
  obtain ⟨e, he⟩ := hagree.1.mp ⟨d, toOption_eq_some.mp hd⟩
  exact ⟨rfl, hperm, hkeys, hkeys', d, e, toOption_eq_some.mp hd, he,
    hagree.2 d e (toOption_eq_some.mp hd) he⟩

end Fixtures.Domain
