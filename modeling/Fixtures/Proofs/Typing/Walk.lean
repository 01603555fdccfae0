import Mathlib.Data.List.Chain
import Mathlib.Data.List.Cycle
import Fixtures.Typing.Registry

namespace Fixtures

def DataType.terminal? : DataType → Option Terminal
  | .primitive p => some (.primitive p)
  | .array item length => some (.array item length)
  | .custom _ => none

namespace TypeRegistry

variable {r : TypeRegistry} {start name base other last : String} {names more others : List String}
  {answer : Except SchemaError ResolvedType}

def definition? (r : TypeRegistry) (name : String) : Option TypeDecl :=
  r.definitions.find? fun d => d.name = name

def own (r : TypeRegistry) (name : String) : List Constraint :=
  ((r.definition? name).map TypeDecl.constraints).getD []

def HasBase (r : TypeRegistry) (name base : String) : Prop :=
  ∃ d, r.definition? name = some d ∧ d.base = .custom base

/-- Names that come one after the other as bases, none of them twice. -/
structure IsWalk (r : TypeRegistry) (start : String) (names : List String) : Prop where
  starts : names.head? = some start
  linked : names.IsChain r.HasBase
  nodup : names.Nodup

/-- Why a walk does not go on after its last name, and the answer to that. A cycle goes from the
first occurrence of the name that comes again up to the last name. -/
inductive Stops (r : TypeRegistry) (names : List String) (last : String) :
    Except SchemaError ResolvedType → Prop
  | terminal {d : TypeDecl} {terminal : Terminal} : r.definition? last = some d →
      d.base.terminal? = some terminal →
      Stops r names last (.ok ⟨terminal, names.flatMap r.own, names⟩)
  | undefined : r.definition? last = none → Stops r names last (.error (.undefinedType last))
  | cycle {before rest : List String} {first : String} : names = before ++ first :: rest →
      r.HasBase last first → Stops r names last (.error (.circularType (first :: rest)))

def ComesTo (r : TypeRegistry) (start : String) (answer : Except SchemaError ResolvedType) : Prop :=
  ∃ names last, r.IsWalk start names ∧ names.getLast? = some last ∧ r.Stops names last answer

theorem HasBase.unique (h : r.HasBase name base) (h' : r.HasBase name other) : base = other := by
  obtain ⟨d, hd, hbase⟩ := h
  obtain ⟨d', hd', hother⟩ := h'
  rw [hd] at hd'
  cases hd'
  rw [hbase] at hother
  exact DataType.custom.inj hother

theorem HasBase.terminal?_eq_none {d : TypeDecl} (h : r.HasBase name base)
    (hd : r.definition? name = some d) : d.base.terminal? = none := by
  obtain ⟨d', hd', hbase⟩ := h
  rw [hd] at hd'
  cases hd'
  rw [hbase]
  rfl

theorem HasBase.definition?_ne_none (h : r.HasBase name base) : r.definition? name ≠ none := by
  obtain ⟨d, hd, -⟩ := h
  simp [hd]

theorem cycleFrom_append {before rest : List String} (h : name ∉ before) :
    cycleFrom name (before ++ name :: rest) = name :: rest := by
  induction before with
  | nil => simp [cycleFrom]
  | cons x before ih =>
    rw [List.mem_cons, not_or] at h
    obtain ⟨hx, hbefore⟩ := h
    rw [List.cons_append, cycleFrom, List.dropWhile_cons_of_pos (by simpa using Ne.symm hx)]
    exact ih hbefore

theorem prefix_or_prefix (h : names.IsChain r.HasBase) (h' : others.IsChain r.HasBase)
    (hhead : names.head? = others.head?) : names <+: others ∨ others <+: names := by
  induction names generalizing others with
  | nil => exact .inl (List.nil_prefix)
  | cons x names ih =>
    cases others with
    | nil => exact .inr (List.nil_prefix)
    | cons y others =>
      cases hhead
      rw [List.prefix_cons_inj, List.prefix_cons_inj]
      cases names with
      | nil => exact .inl List.nil_prefix
      | cons x' names =>
        cases others with
        | nil => exact .inr List.nil_prefix
        | cons y' others =>
          obtain ⟨hx, hnames⟩ := List.isChain_cons_cons.mp h
          obtain ⟨hy, hothers⟩ := List.isChain_cons_cons.mp h'
          exact ih hnames hothers (by rw [hx.unique hy]; rfl)

theorem IsWalk.eq_of_prefix (h : r.IsWalk start others) (hpre : names <+: others)
    (hlast : names.getLast? = some last) (hend : ∀ base, r.HasBase last base → base ∈ names) :
    names = others := by
  obtain ⟨more, rfl⟩ := hpre
  cases more with
  | nil => simp
  | cons x more =>
    have hbase : r.HasBase last x := (List.isChain_append.mp h.linked).2.2 last hlast x rfl
    exact absurd rfl ((List.nodup_append.mp h.nodup).2.2 x (hend x hbase) x List.mem_cons_self)

theorem Stops.mem_of_hasBase (h : r.Stops names last answer) (hbase : r.HasBase last base) :
    base ∈ names := by
  cases h with
  | terminal hd hterminal => simp [hbase.terminal?_eq_none hd] at hterminal
  | undefined hnone => exact absurd hnone hbase.definition?_ne_none
  | cycle hnames hfirst => simp [hnames, hfirst.unique hbase]

theorem cons_eq_cycleFrom {before rest : List String} (hnodup : names.Nodup)
    (hnames : names = before ++ base :: rest) : base :: rest = cycleFrom base names := by
  subst hnames
  refine (cycleFrom_append fun hmem => ?_).symm
  exact (List.nodup_append.mp hnodup).2.2 base hmem base List.mem_cons_self rfl

theorem Stops.unique {answer' : Except SchemaError ResolvedType} (hnodup : names.Nodup)
    (h : r.Stops names last answer) (h' : r.Stops names last answer') : answer = answer' := by
  cases h with
  | terminal hd hterminal =>
    cases h' with
    | terminal hd' hterminal' =>
      rw [hd] at hd'
      cases hd'
      rw [hterminal] at hterminal'
      cases hterminal'
      rfl
    | undefined hnone => simp [hd] at hnone
    | cycle _ hbase => simp [hbase.terminal?_eq_none hd] at hterminal
  | undefined hnone =>
    cases h' with
    | terminal hd => simp [hd] at hnone
    | undefined => rfl
    | cycle _ hbase => exact absurd hnone hbase.definition?_ne_none
  | cycle hnames hbase =>
    cases h' with
    | terminal hd hterminal => simp [hbase.terminal?_eq_none hd] at hterminal
    | undefined hnone => exact absurd hnone hbase.definition?_ne_none
    | cycle hnames' hbase' =>
      rw [cons_eq_cycleFrom hnodup hnames, cons_eq_cycleFrom hnodup hnames', hbase.unique hbase']

theorem ComesTo.unique {answer' : Except SchemaError ResolvedType} (h : r.ComesTo start answer)
    (h' : r.ComesTo start answer') : answer = answer' := by
  obtain ⟨names, last, hwalk, hlast, hstops⟩ := h
  obtain ⟨names', last', hwalk', hlast', hstops'⟩ := h'
  have hsame : names = names' := by
    rcases prefix_or_prefix hwalk.linked hwalk'.linked (hwalk.starts.trans hwalk'.starts.symm)
      with hpre | hpre
    · exact hwalk'.eq_of_prefix hpre hlast fun _ => hstops.mem_of_hasBase
    · exact (hwalk.eq_of_prefix hpre hlast' fun _ => hstops'.mem_of_hasBase).symm
  subst hsame
  rw [hlast] at hlast'
  cases hlast'
  exact hstops.unique hwalk.nodup hstops'

end TypeRegistry

namespace TypeRegistry

variable {r : TypeRegistry} {start name : String} {names : List String} {c c' : Cycle String}

/-- Different names, each with the next one for its base, and the last with the first. -/
structure IsCycle (r : TypeRegistry) (c : Cycle String) : Prop where
  nonempty : c ≠ Cycle.nil
  nodup : c.Nodup
  linked : c.Chain r.HasBase

theorem ComesTo.isCycle (h : r.ComesTo start (.error (.circularType names))) : r.IsCycle names := by
  obtain ⟨walk, last, hwalk, hlast, hstops⟩ := h
  cases hstops with
  | @cycle before rest first hnames hbase =>
    have hlinked := hwalk.linked
    have hnodup := hwalk.nodup
    rw [hnames] at hlast hlinked hnodup
    rw [List.getLast?_append_cons] at hlast
    refine ⟨by simp, Cycle.nodup_coe_iff.mpr (List.nodup_append.mp hnodup).2.1, ?_⟩
    rw [Cycle.chain_coe_cons, ← List.cons_append]
    refine List.isChain_append.mpr ⟨hlinked.right_of_append, .singleton first, fun x hx y hy => ?_⟩
    cases hlast.symm.trans hx
    cases hy
    exact hbase

theorem IsCycle.exists_comesTo (h : r.IsCycle c) (hname : name ∈ c) :
    ∃ names : List String, (names : Cycle String) = c ∧
      r.ComesTo name (.error (.circularType names)) := by
  obtain ⟨all, rfl⟩ := Quot.exists_rep c
  rw [Cycle.mk_eq_coe] at h hname ⊢
  obtain ⟨before, after, rfl⟩ := List.append_of_mem (Cycle.mem_coe_iff.mp hname)
  have hsame : ((name :: after ++ before : List String) : Cycle String) =
      (before ++ name :: after : List String) :=
    Cycle.coe_eq_coe.mpr List.isRotated_append
  rw [← hsame] at h ⊢
  obtain ⟨-, hnodup, hlinked⟩ := h
  rw [List.cons_append, Cycle.chain_coe_cons, ← List.cons_append] at hlinked
  obtain ⟨hwalk, -, hcloses⟩ := List.isChain_append.mp hlinked
  obtain ⟨last, hlast⟩ : ∃ last, (name :: (after ++ before)).getLast? = some last :=
    ⟨_, List.getLast?_eq_some_getLast (List.cons_ne_nil _ _)⟩
  exact ⟨_, rfl, _, last, ⟨rfl, hwalk, Cycle.nodup_coe_iff.mp hnodup⟩, hlast,
    .cycle (List.nil_append _).symm (hcloses last hlast name rfl)⟩

theorem IsCycle.eq_of_mem (h : r.IsCycle c) (h' : r.IsCycle c') (hname : name ∈ c)
    (hname' : name ∈ c') :
    c = c' := by
  obtain ⟨names, rfl, hcomes⟩ := h.exists_comesTo hname
  obtain ⟨names', rfl, hcomes'⟩ := h'.exists_comesTo hname'
  have hsame := hcomes.unique hcomes'
  simp only [Except.error.injEq, SchemaError.circularType.injEq] at hsame
  rw [hsame]

theorem IsCycle.exists_mem (h : r.IsCycle c) : ∃ name, name ∈ c := by
  obtain ⟨names, rfl⟩ := Quot.exists_rep c
  rw [Cycle.mk_eq_coe] at h ⊢
  exact List.exists_mem_of_ne_nil names fun hnil => h.nonempty ((Cycle.coe_eq_nil names).mpr hnil)

theorem IsCycle.exists_definition (h : r.IsCycle c) (hname : name ∈ c) :
    ∃ d ∈ r.definitions, d.name = name := by
  obtain ⟨names, -, hcomes⟩ := h.exists_comesTo hname
  cases hd : r.definition? name with
  | some d => exact ⟨d, List.mem_of_find?_eq_some hd, by simpa using List.find?_some hd⟩
  | none =>
    have hundefined : r.ComesTo name (.error (.undefinedType name)) :=
      ⟨[name], name, ⟨rfl, .singleton name, List.nodup_singleton name⟩, rfl, .undefined hd⟩
    cases hcomes.unique hundefined

end TypeRegistry

end Fixtures
