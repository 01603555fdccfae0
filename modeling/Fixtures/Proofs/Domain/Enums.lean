import Fixtures.Proofs.Domain.Acceptance
import Fixtures.Proofs.Value.Key

namespace Fixtures

namespace Constraint

def isOnLength : Constraint → Bool
  | length .. => true
  | _ => false

def isEnum : Constraint → Bool
  | enum _ => true
  | _ => false

theorem isOnValue_of_isEnum {c : Constraint} (h : c.isEnum = true) : c.isOnValue = true := by
  cases c <;> first | rfl | cases h

end Constraint

namespace Domain

variable {t : Terminal} {p : Primitive} {c : Constraint} {cs : List Constraint} {added : Draft}
  {parts : List Draft} {d : Domain} {v : Value} {values first : List Value}
  {rest : List (List Value)}

def listed? (p : Primitive) : Constraint → Option (List Value)
  | .enum literals => (enumValues p (Constraint.enum literals).label literals).toOption
  | _ => none

theorem isOnLength_of_listed? (h : listed? p c = some values) : c.isOnLength = false := by
  cases c <;> first | rfl | cases h

theorem enums_of_part (h : part t c = .ok added) : added.enums = (listed? t.element c).toList := by
  cases adds_of_part h with
  | @nothing c honValue => cases c <;> first | rfl | cases honValue
  | enum hvalues =>
    rw [listed?, hvalues]
    rfl
  | _ => rfl

theorem flatMap_enums (hparts : cs.mapM (part t) = .ok parts) :
    parts.flatMap (·.enums) = cs.filterMap (listed? t.element) := by
  induction cs generalizing parts with
  | nil =>
    cases hparts
    rfl
  | cons c cs ih =>
    rw [List.mapM_cons, bind_eq_ok] at hparts
    obtain ⟨added, hadded, hparts⟩ := hparts
    rw [bind_eq_ok] at hparts
    obtain ⟨more, hmore, heq⟩ := hparts
    cases heq
    rw [List.flatMap_cons, ih hmore, enums_of_part hadded, List.filterMap_cons]
    cases listed? t.element c <;> rfl

/-- A constraint that is not on lengths checks elements only, and one on lengths checks nothing
else. -/
theorem checks_of_part (h : part t c = .ok added) :
    (c.isOnLength = false → added.domain.lengthChecks = []) ∧
      (c.isOnLength = true → added.domain.elementChecks = []) := by
  cases adds_of_part h with
  | nothing => exact ⟨fun _ => rfl, fun _ => rfl⟩
  | length => exact ⟨nofun, fun _ => rfl⟩
  | _ => exact ⟨fun _ => rfl, nofun⟩

/-- A value violates no check of elements if all constraints but those on lengths accept it. -/
theorem elementRefusal?_eq_none (hparts : cs.mapM (part t) = .ok parts)
    (hchecks : d.elementChecks = parts.flatMap (·.domain.elementChecks)) :
    d.elementRefusal? v = none ↔ ∀ c ∈ cs, c.isOnLength = false → Accepts t v c := by
  have hflat : (∀ check ∈ parts.flatMap (·.domain.elementChecks), check.admits v = true) ↔
      ∀ added ∈ parts, ∀ check ∈ added.domain.elementChecks, check.admits v = true := by
    simp only [List.mem_flatMap]
    exact ⟨fun h added hadded check hcheck => h check ⟨added, hadded, hcheck⟩,
      fun h check ⟨added, hadded, hcheck⟩ => h added hadded check hcheck⟩
  rw [elementRefusal?, firstRefusal?_eq_none, hchecks, hflat, forall_mem_parts hparts]
  refine forall₂_congr fun c hc => ?_
  obtain ⟨added, -, hadded⟩ := mem_of_mapM hparts hc
  obtain ⟨hnoLength, hnoElement⟩ := checks_of_part hadded
  rw [accepts_iff hadded]
  simp only [hadded, Except.ok.injEq, exists_eq_left']
  cases hlength : c.isOnLength with
  | false => simp [hnoLength hlength]
  | true => simp [hnoElement hlength]

theorem mem_commonValues : v ∈ commonValues d first rest ↔
    v ∈ first ∧ (∀ values ∈ rest, ∃ other ∈ values, other.key = v.key) ∧
      d.elementRefusal? v = none := by
  simp [commonValues]

theorem part_enum_eq_ok {literals : List Literal}
    (h : enumValues t.element (Constraint.enum literals).label literals = .ok values) :
    part t (.enum literals) = .ok {
      domain := {
        terminal := t
        elementChecks := [.enum (Constraint.enum literals).label (values.map Value.key)] }
      enums := [values] } := by
  simp only [part, Draft.add, bind_eq_ok]
  exact ⟨values, h, rfl⟩

theorem accepts_enum_iff (h : listed? p c = some values) :
    Accepts (.primitive p) v c ↔ ∃ other ∈ values, other.key = v.key := by
  cases c with
  | enum literals =>
    have hvalues := toOption_eq_some.mp h
    rw [accepts_iff (part_enum_eq_ok (t := .primitive p) hvalues)]
    simp [ValueCheck.admits]
  | _ => cases h

/-- The values that are listed first and that all constraints but those on lengths accept. -/
def Offered (p : Primitive) (cs : List Constraint) (first : List Value) (v : Value) : Prop :=
  v ∈ first ∧ ∀ c ∈ cs, c.isOnLength = false → Accepts (.primitive p) v c

theorem mem_commonValues_iff (hparts : cs.mapM (part (.primitive p)) = .ok parts)
    (hchecks : d.elementChecks = parts.flatMap (·.domain.elementChecks))
    (hlisted : cs.filterMap (listed? p) = first :: rest) :
    v ∈ commonValues d first rest ↔ Offered p cs first v := by
  rw [mem_commonValues, elementRefusal?_eq_none hparts hchecks]
  constructor
  · rintro ⟨hfirst, -, hall⟩
    exact ⟨hfirst, hall⟩
  · rintro ⟨hfirst, hall⟩
    refine ⟨hfirst, fun values hvalues => ?_, hall⟩
    have hmem : values ∈ cs.filterMap (listed? p) := hlisted ▸ List.mem_cons_of_mem _ hvalues
    obtain ⟨c, hc, hlist⟩ := List.mem_filterMap.mp hmem
    exact (accepts_enum_iff hlist).mp (hall c hc (isOnLength_of_listed? hlist))

structure SameBounds (a b : Domain) : Prop where
  terminal : a.terminal = b.terminal
  numeric : a.numeric = b.numeric
  temporal : a.temporal = b.temporal
  length : a.length = b.length

theorem SameBounds.snap {a b : Domain} (h : SameBounds a b) : SameBounds a.snap b.snap := by
  obtain ⟨t, _, _, _, _, _, _, _⟩ := a
  obtain ⟨_, _, _, _, _, _, _, _⟩ := b
  obtain ⟨rfl, rfl, rfl, rfl⟩ := h
  cases t with
  | primitive p => cases p <;> exact ⟨rfl, rfl, rfl, rfl⟩
  | array p length => cases length <;> cases p <;> exact ⟨rfl, rfl, rfl, rfl⟩

theorem SameBounds.merge {a b : Draft} (h : SameBounds a.domain b.domain) (added : Draft) :
    SameBounds (a.merge added).domain (b.merge added).domain :=
  ⟨h.terminal, congrArg (fun bounds => bounds.tighten added.domain.numeric) h.numeric,
    congrArg (fun bounds => bounds.tighten added.domain.temporal) h.temporal,
    congrArg (fun bounds => bounds.tighten added.domain.length) h.length⟩

theorem sameBounds_merge_enum (h : part t c = .ok added) (hc : c.isEnum = true) (a : Draft) :
    SameBounds (a.merge added).domain a.domain := by
  cases adds_of_part h with
  | nothing => exact ⟨rfl, rfl, rfl, rfl⟩
  | enum => exact ⟨rfl, rfl, rfl, rfl⟩
  | _ => cases hc

theorem exists_parts_filter (hparts : cs.mapM (part t) = .ok parts) :
    ∃ others, (cs.filter fun c => !c.isEnum).mapM (part t) = .ok others ∧
      others.flatMap (·.enums) = [] ∧ ∀ a b : Draft, SameBounds a.domain b.domain →
        SameBounds (parts.foldl Draft.merge a).domain (others.foldl Draft.merge b).domain := by
  induction cs generalizing parts with
  | nil =>
    cases hparts
    exact ⟨[], rfl, rfl, fun _ _ h => h⟩
  | cons c cs ih =>
    rw [List.mapM_cons, bind_eq_ok] at hparts
    obtain ⟨added, hadded, hparts⟩ := hparts
    rw [bind_eq_ok] at hparts
    obtain ⟨more, hmore, heq⟩ := hparts
    cases heq
    obtain ⟨others, hothers, henums, hbounds⟩ := ih hmore
    cases hc : c.isEnum with
    | true =>
      refine ⟨others, by rw [List.filter_cons_of_neg (by simp [hc])]; exact hothers, henums,
        fun a b h => ?_⟩
      have hsame := sameBounds_merge_enum hadded hc a
      exact hbounds _ _ ⟨hsame.terminal.trans h.terminal, hsame.numeric.trans h.numeric,
        hsame.temporal.trans h.temporal, hsame.length.trans h.length⟩
    | false =>
      refine ⟨added :: others, ?_, ?_, fun a b h => hbounds _ _ (h.merge added)⟩
      · rw [List.filter_cons_of_pos (by simp [hc]), List.mapM_cons, hadded, hothers]
        rfl
      · rw [List.flatMap_cons, henums, enums_of_part hadded]
        cases c <;> first | rfl | cases hc

theorem SameBounds.contradicts_eq {a b : Domain} (h : SameBounds a b) :
    a.contradicts = b.contradicts := by
  rw [contradicts, h.numeric, h.temporal, h.length]
  rfl

/-- Without its enums, a list of constraints describes a domain unless its bounds contradict each
other. -/
theorem exists_build_filter_iff (hparts : cs.mapM (part t) = .ok parts) :
    (∃ d, build t (cs.filter fun c => !c.isEnum) = .ok d) ↔
      (together t parts).domain.snap.contradicts = false := by
  obtain ⟨others, hothers, henums, hbounds⟩ := exists_parts_filter hparts
  have hsame : SameBounds (together t parts).domain.snap (together t others).domain.snap :=
    (hbounds _ _ ⟨rfl, rfl, rfl, rfl⟩).snap
  rw [hsame.contradicts_eq]
  cases hcontradicts : (together t others).domain.snap.contradicts with
  | true => simp [build_of_contradicts hothers hcontradicts]
  | false => simp [build_of_free hothers hcontradicts (enums_together.trans henums)]

theorem exists_parts_of_filter (hothers : ∃ d, build t (cs.filter fun c => !c.isEnum) = .ok d)
    (henums : ∀ c ∈ cs, c.isEnum = true → (listed? t.element c).isSome = true) :
    ∃ parts, cs.mapM (part t) = .ok parts := by
  obtain ⟨d, hd⟩ := hothers
  obtain ⟨others, hothers, -⟩ := built_of_build hd
  refine exists_mapM_eq_ok fun c hc => ?_
  cases henum : c.isEnum with
  | true =>
    obtain ⟨values, hvalues⟩ := Option.isSome_iff_exists.mp (henums c hc henum)
    cases c with
    | enum literals => exact ⟨_, part_enum_eq_ok (toOption_eq_some.mp hvalues)⟩
    | _ => cases henum
  | false =>
    obtain ⟨added, -, hadded⟩ := mem_of_mapM hothers (List.mem_filter.mpr ⟨hc, by simp [henum]⟩)
    exact ⟨added, hadded⟩

theorem isSome_listed?_of_parts (hparts : cs.mapM (part t) = .ok parts) (hc : c ∈ cs)
    (henum : c.isEnum = true) : (listed? t.element c).isSome = true := by
  obtain ⟨added, -, hadded⟩ := mem_of_mapM hparts hc
  cases adds_of_part hadded with
  | nothing honValue =>
    rw [Constraint.isOnValue_of_isEnum henum] at honValue
    cases honValue
  | enum hvalues =>
    rw [listed?, hvalues]
    rfl
  | _ => cases henum

/-- A domain is left without a value if all is well with its constraints, except that no listed
value is accepted by all of them. -/
theorem build_eq_noEnumValue_iff : build (.primitive p) cs = .error .noEnumValue ↔
    (∃ d, build (.primitive p) (cs.filter fun c => !c.isEnum) = .ok d) ∧
      (∀ c ∈ cs, c.isEnum = true → (listed? p c).isSome = true) ∧
      ∃ first rest, cs.filterMap (listed? p) = first :: rest ∧ ∀ v, ¬ Offered p cs first v := by
  cases hparts : cs.mapM (part (.primitive p)) with
  | error e =>
    constructor
    · intro h
      rw [build_eq, hparts] at h
      cases h
      obtain ⟨c, -, hc⟩ := exists_of_mapM_eq_error hparts
      cases constraint?_of_part hc
    · rintro ⟨hothers, henums, -⟩
      obtain ⟨parts, hparts'⟩ := exists_parts_of_filter hothers henums
      cases hparts.symm.trans hparts'
  | ok parts =>
    have hlisted : (together (.primitive p) parts).enums = cs.filterMap (listed? p) :=
      enums_together.trans (flatMap_enums hparts)
    have hchecks : (together (.primitive p) parts).domain.snap.elementChecks =
        parts.flatMap (·.domain.elementChecks) := checks_snap_together.1
    rw [exists_build_filter_iff hparts]
    cases hbounds : (together (.primitive p) parts).domain.snap.contradicts with
    | true => simp [build_of_contradicts hparts hbounds]
    | false =>
      cases henums : (together (.primitive p) parts).enums with
      | nil => simp [build_of_free hparts hbounds henums, ← hlisted, henums]
      | cons first rest =>
        have hempty : (commonValues
          (together (.primitive p) parts).domain.snap first rest).isEmpty = true ↔
            ∀ v, ¬ Offered p cs first v := by
          rw [List.isEmpty_iff, List.eq_nil_iff_forall_not_mem]
          exact forall_congr' fun v =>
            not_congr (mem_commonValues_iff hparts hchecks (hlisted ▸ henums))
        rw [build_of_listed hparts hbounds henums, ← hlisted, henums]
        constructor
        · intro h
          split at h
          · next hnone =>
            exact ⟨rfl, fun c => isSome_listed?_of_parts hparts, first, rest, rfl, hempty.mp hnone⟩
          · cases h
        · rintro ⟨-, -, _, _, heq, hnone⟩
          cases heq
          exact if_pos (hempty.mpr hnone)

theorem kind?_of_listed? (h : listed? p c = some values) (hv : v ∈ values) : v.kind? = some p := by
  cases c with
  | enum literals => exact kind?_of_enumValues (toOption_eq_some.mp h) hv
  | _ => cases h

theorem legible_of_listed? (hdecimal : p ≠ .decimal) (hjson : p ≠ .json)
    (h : listed? p c = some values) (hv : v ∈ values) : v.Legible := by
  cases c with
  | enum literals =>
    obtain ⟨l, hl, hliteral⟩ := exists_literal_of_enumValues (toOption_eq_some.mp h) hv
    exact Value.legible_of_ofLiteral? hliteral hl hdecimal hjson
  | _ => cases h

theorem ne_nil_of_isEnum (hparts : cs.mapM (part (.primitive p)) = .ok parts)
    (henum : ∃ c ∈ cs, c.isEnum = true) : cs.filterMap (listed? p) ≠ [] := by
  obtain ⟨c, hc, henum⟩ := henum
  obtain ⟨values, hvalues⟩ := Option.isSome_iff_exists.mp (isSome_listed?_of_parts hparts hc henum)
  exact List.ne_nil_of_mem (List.mem_filterMap.mpr ⟨c, hc, hvalues⟩)

theorem offered_iff_mem_all (hdecimal : p ≠ .decimal) (hjson : p ≠ .json)
    (hparts : cs.mapM (part (.primitive p)) = .ok parts)
    (hlisted : cs.filterMap (listed? p) = first :: rest) :
    Offered p cs first v ↔ (∀ values ∈ first :: rest, v ∈ values) ∧
      ∀ c ∈ cs, c.isOnLength = false → c.isEnum = false → Accepts (.primitive p) v c := by
  rw [← hlisted]
  constructor
  · rintro ⟨hfirst, hall⟩
    refine ⟨fun values hvalues => ?_, fun c hc hlength _ => hall c hc hlength⟩
    obtain ⟨c, hc, hlist⟩ := List.mem_filterMap.mp hvalues
    obtain ⟨c', hc', hlist'⟩ :=
      List.mem_filterMap.mp (hlisted ▸ List.mem_cons_self : first ∈ cs.filterMap _)
    have hlength : c.isOnLength = false := isOnLength_of_listed? hlist
    obtain ⟨other, hother, hkey⟩ := (accepts_enum_iff hlist).mp (hall c hc hlength)
    have hkind : other.kind? = v.kind? :=
      (kind?_of_listed? hlist hother).trans (kind?_of_listed? hlist' hfirst).symm
    have hsame := Value.eq_of_key_eq (legible_of_listed? hdecimal hjson hlist hother)
      (legible_of_listed? hdecimal hjson hlist' hfirst) hkind hkey
    exact hsame ▸ hother
  · rintro ⟨hlists, hall⟩
    refine ⟨hlists first (hlisted ▸ List.mem_cons_self), fun c hc hlength => ?_⟩
    cases henum : c.isEnum with
    | false => exact hall c hc hlength henum
    | true =>
      obtain ⟨values, hvalues⟩ :=
        Option.isSome_iff_exists.mp (isSome_listed?_of_parts hparts hc henum)
      have hv := hlists values (List.mem_filterMap.mpr ⟨c, hc, hvalues⟩)
      exact (accepts_enum_iff hvalues).mpr ⟨v, hv, rfl⟩

theorem admits_iff_of_offered (h : build (.primitive p) cs = .ok d)
    (hlisted : first ∈ cs.filterMap (listed? p)) (hv : Offered p cs first v) :
    d.admits v = true ↔ ∀ c ∈ cs, c.isOnLength = true → Accepts (.primitive p) v c := by
  obtain ⟨c, -, hlist⟩ := List.mem_filterMap.mp hlisted
  have hnull : v ≠ .null := by
    rintro rfl
    cases kind?_of_listed? hlist hv.1
  rw [admits_iff_of_build h hnull]
  refine ⟨fun hall c hc _ => hall c hc, fun hlengths c hc => ?_⟩
  cases hlength : c.isOnLength with
  | true => exact hlengths c hc hlength
  | false => exact hv.2 c hc hlength

/-- What a domain with enums offers: the values listed that every constraint accepts, lengths left
out. There is no domain if these are none; but those that are offered can all be too long or too
short. -/
theorem offers_listed_values (p : Primitive) (cs : List Constraint)
    (henum : ∃ c ∈ cs, c.isEnum = true) :
    (∀ d, build (.primitive p) cs = .ok d → ∃ first rest offered,
      cs.filterMap (listed? p) = first :: rest ∧ d.allowed = some offered ∧ offered ≠ [] ∧
        (∀ v, v ∈ offered ↔ Offered p cs first v) ∧
        (p ≠ .decimal → p ≠ .json → ∀ v, v ∈ offered ↔ (∀ values ∈ first :: rest, v ∈ values) ∧
          ∀ c ∈ cs, c.isOnLength = false → c.isEnum = false → Accepts (.primitive p) v c) ∧
        ∀ v ∈ offered, d.admits v = true ↔ ∀ c ∈ cs, c.isOnLength = true →
          Accepts (.primitive p) v c) ∧
    (build (.primitive p) cs = .error .noEnumValue ↔
      (∃ d, build (.primitive p) (cs.filter fun c => !c.isEnum) = .ok d) ∧
        (∀ c ∈ cs, c.isEnum = true → (listed? p c).isSome = true) ∧
        ∃ first rest, cs.filterMap (listed? p) = first :: rest ∧ ∀ v, ¬ Offered p cs first v) := by
  refine ⟨fun d h => ?_, build_eq_noEnumValue_iff⟩
  obtain ⟨parts, hparts, hbuilt⟩ := built_of_build h
  have henums : (together (.primitive p) parts).enums = cs.filterMap (listed? p) :=
    enums_together.trans (flatMap_enums hparts)
  cases hbuilt with
  | free hnil => exact absurd (henums.symm.trans hnil) (ne_nil_of_isEnum hparts henum)
  | @listed first rest hcons hsome =>
    have hlisted := henums.symm.trans hcons
    have hoffered : ∀ v, v ∈ commonValues (together (.primitive p) parts).domain.snap first rest ↔
        Offered p cs first v := fun v => mem_commonValues_iff hparts checks_snap_together.1 hlisted
    refine ⟨first, rest, _, hlisted, rfl, hsome, hoffered, fun hdecimal hjson v => ?_,
      fun v hv => ?_⟩
    · rw [hoffered]
      exact offered_iff_mem_all hdecimal hjson hparts hlisted
    · exact admits_iff_of_offered h (hlisted ▸ List.mem_cons_self) ((hoffered v).mp hv)

def shortWords : List Constraint :=
  [.enum [.text "a", .text "bb", .text "c"], .length none (some 1), .enum [.text "bb", .text "c"]]

theorem offers_listed_values_shortWords : (∃ c ∈ shortWords, c.isEnum = true) ∧
    ∃ d offered, build (.primitive .string) shortWords = .ok d ∧ d.allowed = some offered ∧
      .text "c" ∈ offered ∧ .text "a" ∉ offered ∧ .text "bb" ∈ offered ∧
        d.admits (.text "bb") = false := by
  have henum : ∃ c ∈ shortWords, c.isEnum = true := ⟨_, List.mem_cons_self, rfl⟩
  have hothers : ∀ v, ∀ c ∈ shortWords, c.isOnLength = false → c.isEnum = false →
      Accepts (.primitive .string) v c := by
    simp [shortWords, Constraint.isOnLength, Constraint.isEnum]
  obtain ⟨d, hd⟩ : ∃ d, build (.primitive .string) shortWords = .ok d := ⟨_, rfl⟩
  obtain ⟨first, rest, offered, hlisted, hallowed, -, -, hmem, hadmits⟩ :=
    (offers_listed_values .string shortWords henum).1 d hd
  have hlists : first :: rest = [[.text "a", .text "bb", .text "c"], [.text "bb", .text "c"]] :=
    hlisted.symm
  have hmem : ∀ v, v ∈ offered ↔ ∀ values ∈ first :: rest, v ∈ values := fun v =>
    (hmem (by decide) (by decide) v).trans (and_iff_left (hothers v))
  rw [hlists] at hmem
  have hbb : .text "bb" ∈ offered := (hmem _).mpr (by simp)
  refine ⟨henum, d, offered, hd, hallowed, (hmem _).mpr (by simp), by simp [hmem], hbb, ?_⟩
  · rw [Bool.eq_false_iff]
    intro hadmitted
    obtain ⟨added, hadded, hchecks⟩ :=
      (hadmits _ hbb).mp hadmitted (.length none (some 1)) (by simp [shortWords]) rfl
    cases hadded
    exact absurd (hchecks _ List.mem_cons_self) (by decide)

theorem offers_refused_value : ∃ d,
    build (.primitive .string) [.enum [.text "bb"], .length none (some 1)] = .ok d ∧
    d.allowed = some [.text "bb"] ∧ d.admits (.text "bb") = false :=
  ⟨_, rfl, rfl, rfl⟩

end Domain

end Fixtures
