import Fixtures.Proofs.Typing.Walk

namespace Fixtures.TypeRegistry

variable {r s : TypeRegistry} {start name base x : String} {names chain : List String}
  {d : TypeDecl} {known resolved : ResolvedType} {unused rest : List TypeDecl}
  {constraints : List Constraint}

structure EndsAt (r : TypeRegistry) (start : String) (resolved : ResolvedType) : Prop where
  walk : r.IsWalk start resolved.chain
  terminal : ∃ last d, resolved.chain.getLast? = some last ∧ r.definition? last = some d ∧
    d.base.terminal? = some resolved.terminal
  constraints : resolved.constraints = resolved.chain.flatMap r.own

theorem comesTo_ok : r.ComesTo start (.ok resolved) ↔ r.EndsAt start resolved := by
  constructor
  · rintro ⟨names, last, hwalk, hlast, hstops⟩
    cases hstops with
    | terminal hd hterminal => exact ⟨hwalk, ⟨last, _, hlast, hd, hterminal⟩, rfl⟩
  · rintro ⟨hwalk, ⟨last, d, hlast, hd, hterminal⟩, hconstraints⟩
    obtain ⟨terminal, constraints, names⟩ := resolved
    simp only at hconstraints
    subst hconstraints
    exact ⟨names, last, hwalk, hlast, .terminal hd hterminal⟩

theorem EndsAt.mem_of_hasBase (h : r.EndsAt start known) (hname : name ∈ known.chain)
    (hbase : r.HasBase name base) : base ∈ known.chain ∧ base ≠ start := by
  obtain ⟨last, d, hlast, hd, hterminal⟩ := h.terminal
  obtain ⟨before, after, hchain⟩ := List.append_of_mem hname
  have hlinked := h.walk.linked
  have hnodup := h.walk.nodup
  have hstarts := h.walk.starts
  rw [hchain] at hlast hlinked hnodup hstarts ⊢
  cases after with
  | nil =>
    rw [List.getLast?_concat] at hlast
    cases hlast
    simp [hbase.terminal?_eq_none hd] at hterminal
  | cons y after =>
    obtain rfl : y = base := hlinked.right_of_append.rel.unique hbase
    refine ⟨by simp, fun hstart => ?_⟩
    subst hstart
    cases before with
    | nil | cons z before =>
      cases hstarts
      simp at hnodup

theorem EndsAt.ne_of_linked (h : r.EndsAt start known) (hx : x ∈ known.chain)
    (hlinked : (x :: names).IsChain r.HasBase) : start ∉ names := by
  induction names generalizing x with
  | nil => simp
  | cons y names ih =>
    obtain ⟨hbase, hlinked⟩ := List.isChain_cons_cons.mp hlinked
    obtain ⟨hy, hne⟩ := h.mem_of_hasBase hx hbase
    exact List.not_mem_cons_of_ne_of_not_mem hne.symm (ih hy hlinked)

structure Reaches (r : TypeRegistry) (start : String) (chain : List String) (name : String) :
    Prop where
  starts : (chain ++ [name]).head? = some start
  linked : (chain ++ [name]).IsChain r.HasBase
  nodup : chain.Nodup

theorem Reaches.isWalk (h : r.Reaches start chain name) (hnew : name ∉ chain) :
    r.IsWalk start (chain ++ [name]) := by
  refine ⟨h.starts, h.linked, List.nodup_append.mpr ⟨h.nodup, by simp, fun x hx y hy heq => ?_⟩⟩
  rw [List.mem_singleton.mp hy] at heq
  exact hnew (heq ▸ hx)

theorem Reaches.endsAt (h : r.Reaches start chain name) (hknown : r.EndsAt name known) :
    r.EndsAt start
      ⟨known.terminal, chain.flatMap r.own ++ known.constraints, chain ++ known.chain⟩ := by
  obtain ⟨tail, htail⟩ : ∃ tail, known.chain = name :: tail := by
    have hstarts := hknown.walk.starts
    cases hchain : known.chain with
    | nil => simp [hchain] at hstarts
    | cons y tail =>
      rw [hchain] at hstarts
      cases hstarts
      exact ⟨tail, rfl⟩
  have hfresh : ∀ x ∈ chain, x ∉ known.chain := by
    intro x hx hmem
    obtain ⟨before, after, rfl⟩ := List.append_of_mem hx
    have hlinked := h.linked
    rw [List.append_assoc] at hlinked
    exact hknown.ne_of_linked hmem hlinked.right_of_append (by simp)
  obtain ⟨last, d, hlast, hd, hterminal⟩ := hknown.terminal
  refine ⟨⟨?_, ?_, ?_⟩, ⟨last, d, ?_, hd, hterminal⟩, ?_⟩
  · have hstarts := h.starts
    simp only [htail]
    cases chain with
    | nil => exact hstarts
    | cons y chain => exact hstarts
  · have hlinked := hknown.walk.linked
    rw [htail] at hlinked
    simp only [htail]
    exact List.isChain_split.mpr ⟨h.linked, hlinked⟩
  · refine List.nodup_append.mpr ⟨h.nodup, hknown.walk.nodup, fun x hx y hy heq => ?_⟩
    exact hfresh x hx (heq ▸ hy)
  · rw [List.getLast?_append, hlast]
    rfl
  · rw [List.flatMap_append, hknown.constraints]

theorem find?_eq_none_of_take? (h : take? name unused = none) :
    unused.find? (fun d => d.name = name) = none := by
  induction unused with
  | nil => rfl
  | cons e unused ih =>
    by_cases he : e.name = name
    · simp [take?, he] at h
    · rw [take?, if_neg he, Option.map_eq_none_iff] at h
      rw [List.find?_cons_of_neg (by simpa using he), ih h]

theorem find?_of_take? (h : take? name unused = some (d, rest)) :
    unused.find? (fun d => d.name = name) = some d ∧
      ∀ x, x ≠ name → rest.find? (fun d => d.name = x) = unused.find? fun d => d.name = x := by
  induction unused generalizing rest with
  | nil => cases h
  | cons e unused ih =>
    by_cases he : e.name = name
    · rw [take?, if_pos he] at h
      cases h
      refine ⟨by simp [he], fun x hx => ?_⟩
      have hne : d.name ≠ x := fun heq => hx (heq.symm.trans he)
      rw [List.find?_cons_of_neg (by simpa using hne)]
    · rw [take?, if_neg he, Option.map_eq_some_iff] at h
      obtain ⟨⟨d', rest'⟩, htake, heq⟩ := h
      cases heq
      obtain ⟨hd, hrest⟩ := ih htake
      refine ⟨by rw [List.find?_cons_of_neg (by simpa using he), hd], fun x hx => ?_⟩
      rw [List.find?_cons, List.find?_cons, hrest x hx]

def Coherent (r : TypeRegistry) : Prop :=
  ∀ name known, r.answer? name = some known → r.EndsAt name known

theorem Reaches.comesTo_cycle (h : r.Reaches start chain name) (hname : name ∈ chain) :
    r.ComesTo start (.error (.circularType (cycleFrom name chain))) := by
  obtain ⟨before, rest, hchain⟩ := List.append_of_mem hname
  obtain ⟨hlinked, -, hnext⟩ := List.isChain_append.mp h.linked
  obtain ⟨last, hlast⟩ : ∃ last, chain.getLast? = some last :=
    Option.ne_none_iff_exists'.mp fun hnone => by simp_all
  refine ⟨chain, last, ⟨?_, hlinked, h.nodup⟩, hlast, ?_⟩
  · have hstarts := h.starts
    rw [hchain] at hstarts ⊢
    cases before <;> exact hstarts
  · rw [← cons_eq_cycleFrom h.nodup hchain]
    exact .cycle hchain (hnext last hlast name rfl)

theorem Reaches.comesTo_undefined (h : r.Reaches start chain name) (hnew : name ∉ chain)
    (hnone : r.definition? name = none) : r.ComesTo start (.error (.undefinedType name)) :=
  ⟨chain ++ [name], name, h.isWalk hnew, List.getLast?_concat, .undefined hnone⟩

theorem flatMap_own_concat (hd : r.definition? name = some d) :
    (chain ++ [name]).flatMap r.own = chain.flatMap r.own ++ d.constraints := by
  simp [own, hd]

theorem Reaches.comesTo_terminal {terminal : Terminal} (h : r.Reaches start chain name)
    (hnew : name ∉ chain) (hd : r.definition? name = some d)
    (hterminal : d.base.terminal? = some terminal) :
    r.ComesTo start
      (.ok ⟨terminal, chain.flatMap r.own ++ d.constraints, chain ++ [name]⟩) := by
  rw [← flatMap_own_concat hd]
  exact ⟨chain ++ [name], name, h.isWalk hnew, List.getLast?_concat, .terminal hd hterminal⟩

theorem Reaches.concat (h : r.Reaches start chain name) (hnew : name ∉ chain)
    (hbase : r.HasBase name base) : r.Reaches start (chain ++ [name]) base := by
  obtain ⟨hstarts, hlinked, hnodup⟩ := h.isWalk hnew
  refine ⟨?_, ?_, hnodup⟩
  · rw [List.head?_append, hstarts]
    rfl
  · rw [List.append_assoc]
    exact List.isChain_split.mpr ⟨hlinked, by simp [hbase]⟩

theorem Reaches.comesTo_walk {answer? : String → Option ResolvedType}
    (h : r.Reaches start chain name)
    (hunused : ∀ x ∉ chain, unused.find? (fun d => d.name = x) = r.definition? x)
    (hconstraints : constraints = chain.flatMap r.own)
    (hanswers : ∀ x known, answer? x = some known → r.EndsAt x known) :
    r.ComesTo start (walk answer? unused chain constraints name) := by
  fun_induction walk answer? unused chain constraints name with
  | case1 unused chain constraints name hmem => exact h.comesTo_cycle hmem
  | case2 unused chain constraints name hnew known hknown =>
    subst hconstraints
    exact comesTo_ok.mpr (h.endsAt (hanswers name known hknown))
  | case3 unused chain constraints name hnew hunknown htake =>
    exact h.comesTo_undefined hnew (hunused name hnew ▸ find?_eq_none_of_take? htake)
  | case4 unused chain constraints name hnew hunknown d rest htake p hbase =>
    subst hconstraints
    obtain ⟨hfind, -⟩ := find?_of_take? htake
    exact h.comesTo_terminal hnew (hunused name hnew ▸ hfind) (by rw [hbase]; rfl)
  | case5 unused chain constraints name hnew hunknown d rest htake item length hbase =>
    subst hconstraints
    obtain ⟨hfind, -⟩ := find?_of_take? htake
    exact h.comesTo_terminal hnew (hunused name hnew ▸ hfind) (by rw [hbase]; rfl)
  | case6 unused chain constraints name hnew hunknown d rest htake base hbase ih =>
    obtain ⟨hfind, hrest⟩ := find?_of_take? htake
    have hd : r.definition? name = some d := hunused name hnew ▸ hfind
    refine ih (h.concat hnew ⟨d, hd, hbase⟩) (fun x hx => ?_) ?_
    · rw [List.mem_append, List.mem_singleton, not_or] at hx
      rw [hrest x hx.2, hunused x hx.1]
    · rw [flatMap_own_concat hd, hconstraints]

theorem comesTo_walk (h : r.Coherent) (name : String) :
    r.ComesTo name (walk r.answer? r.definitions [] [] name) :=
  Reaches.comesTo_walk ⟨rfl, .singleton name, .nil⟩ (fun _ _ => rfl) rfl h

theorem fst_resolveName (r : TypeRegistry) (name : String) :
    (r.resolveName name).1 =
      ((r.answer? name).map .ok).getD (walk r.answer? r.definitions [] [] name) := by
  rw [resolveName]
  cases r.answer? name with
  | some known => rfl
  | none => cases h : walk r.answer? r.definitions [] [] name <;> simp

theorem comesTo_resolveName (h : r.Coherent) (name : String) :
    r.ComesTo name (r.resolveName name).1 := by
  rw [fst_resolveName]
  cases hknown : r.answer? name with
  | some known => exact comesTo_ok.mpr (h name known hknown)
  | none => exact comesTo_walk h name

theorem comesTo_resolveName_forgetful (r : TypeRegistry) (name : String) :
    r.ComesTo name ({ r with answers := [] }.resolveName name).1 := by
  rw [fst_resolveName]
  exact Reaches.comesTo_walk ⟨rfl, .singleton name, .nil⟩ (fun _ _ => rfl) rfl nofun

def Extends (s r : TypeRegistry) : Prop :=
  ∀ name d, r.definition? name = some d → s.definition? name = some d

theorem HasBase.mono (hsr : s.Extends r) (h : r.HasBase name base) : s.HasBase name base := by
  obtain ⟨d, hd, hbase⟩ := h
  exact ⟨d, hsr name d hd, hbase⟩

theorem EndsAt.isSome_definition? (h : r.EndsAt start known) (hname : name ∈ known.chain) :
    ∃ d, r.definition? name = some d := by
  obtain ⟨before, after, hchain⟩ := List.append_of_mem hname
  cases after with
  | nil =>
    obtain ⟨last, d, hlast, hd, -⟩ := h.terminal
    rw [hchain, List.getLast?_concat] at hlast
    cases hlast
    exact ⟨d, hd⟩
  | cons y after =>
    have hlinked := h.walk.linked
    rw [hchain] at hlinked
    obtain ⟨d, hd, -⟩ := hlinked.right_of_append.rel
    exact ⟨d, hd⟩

theorem EndsAt.mono (hsr : s.Extends r) (h : r.EndsAt start known) : s.EndsAt start known := by
  obtain ⟨last, d, hlast, hd, hterminal⟩ := h.terminal
  refine ⟨⟨h.walk.starts, h.walk.linked.imp fun _ _ => .mono hsr, h.walk.nodup⟩,
    ⟨last, d, hlast, hsr last d hd, hterminal⟩, ?_⟩
  rw [h.constraints]
  refine List.flatMap_congr fun x hx => ?_
  obtain ⟨e, he⟩ := h.isSome_definition? hx
  rw [own, own, he, hsr x e he]

theorem answer?_append {answers : List (String × ResolvedType)} :
    { r with answers := r.answers ++ answers }.answer? name =
      (r.answer? name).or ({ r with answers := answers }.answer? name) := by
  rw [answer?, answer?, answer?, List.find?_append, Option.map_or]

theorem coherent_resolveName (h : r.Coherent) (name : String) :
    (r.resolveName name).2.Coherent := by
  have hwalk := comesTo_walk h name
  rw [resolveName]
  split
  next => exact h
  next =>
    split
    next resolved hresolved =>
      rw [hresolved, comesTo_ok] at hwalk
      intro x known hknown
      refine EndsAt.mono (r := r) (fun _ _ hd => hd) ?_
      rw [answer?_append, Option.or_eq_some_iff] at hknown
      rcases hknown with hold | ⟨-, hnew⟩
      · exact h x known hold
      · simp only [answer?, List.find?_singleton] at hnew
        split at hnew
        next heq =>
          simp at heq hnew
          subst heq hnew
          exact hwalk
        next => cases hnew
    next => exact h

theorem coherent_define (h : r.Coherent) (hdefine : r.define d = .ok s) : s.Coherent := by
  rw [define] at hdefine
  split at hdefine
  · cases hdefine
  · cases hdefine
    intro x known hknown
    refine (h x known hknown).mono fun name e he => ?_
    rw [definition?, List.find?_append, Option.or_eq_some_iff]
    exact .inl he

end Fixtures.TypeRegistry

namespace Fixtures

namespace TypeRegistry

inductive Call
  | define (d : TypeDecl)
  | resolve (type : DataType)
  | resolveName (name : String)

variable {r s : TypeRegistry} {call : Call} {d : TypeDecl} {name : String}

def after (r : TypeRegistry) : Call → TypeRegistry
  | .define d => (r.define d).toOption.getD r
  | .resolve type => (r.resolve type).2
  | .resolveName name => (r.resolveName name).2

def ofCalls (calls : List Call) : TypeRegistry :=
  calls.foldl after empty

def Taken (r : TypeRegistry) (name : String) : Prop :=
  (∃ d ∈ r.definitions, d.name = name) ∨
    ∃ p : Primitive, p.name = Text.lowerAscii (Text.trimmed name)

theorem coherent_empty : empty.Coherent :=
  nofun

theorem Coherent.after (h : r.Coherent) (call : Call) : (r.after call).Coherent := by
  cases call with
  | define d =>
    rw [TypeRegistry.after]
    cases hdefine : r.define d with
    | ok s => exact coherent_define h hdefine
    | error e => exact h
  | resolve type =>
    cases type with
    | primitive p => exact h
    | array item length => exact h
    | custom name => exact coherent_resolveName h name
  | resolveName name => exact coherent_resolveName h name

theorem ofCalls_concat (calls : List Call) (call : Call) :
    ofCalls (calls ++ [call]) = (ofCalls calls).after call :=
  List.foldl_concat ..

theorem coherent_ofCalls (calls : List Call) : (ofCalls calls).Coherent := by
  induction calls using List.reverseRecOn with
  | nil => exact coherent_empty
  | append_singleton calls call ih =>
    rw [ofCalls_concat]
    exact ih.after call

theorem isSome_primitive_iff :
    (Primitive.ofName? name).isSome ↔
      ∃ p : Primitive, p.name = Text.lowerAscii (Text.trimmed name) := by
  rw [Primitive.ofName?, nameIn?, List.find?_isSome]
  constructor
  · rintro ⟨p, -, hp⟩
    exact ⟨p, by simpa using hp⟩
  · rintro ⟨p, hp⟩
    exact ⟨p, by cases p <;> simp [Primitive.all], by simpa using hp⟩

theorem taken_iff :
    r.Taken name ↔ ((Primitive.ofName? name).isSome || r.contains name) = true := by
  rw [Bool.or_eq_true, isSome_primitive_iff, contains, List.any_eq_true, or_comm]
  simp only [decide_eq_true_eq, Taken]

theorem define_of_taken (h : r.Taken d.name) :
    r.define d = .error (.duplicateName .type d.name) := by
  rw [define, if_pos (taken_iff.mp h)]

theorem define_of_not_taken (h : ¬ r.Taken d.name) :
    r.define d = .ok { r with definitions := r.definitions ++ [d] } := by
  rw [define, if_neg (mt taken_iff.mpr h)]

theorem define_eq_ok : r.define d = .ok s ↔
    ¬ r.Taken d.name ∧ s = { r with definitions := r.definitions ++ [d] } := by
  by_cases h : r.Taken d.name
  · simp only [define_of_taken h, h, not_true, false_and, reduceCtorEq]
  · simp only [define_of_not_taken h, h, not_false_iff, true_and, Except.ok.injEq, eq_comm]

theorem define_eq_error {e : SchemaError} : r.define d = .error e ↔
    r.Taken d.name ∧ e = .duplicateName .type d.name := by
  by_cases h : r.Taken d.name
  · simp only [define_of_taken h, h, true_and, Except.error.injEq, eq_comm]
  · simp only [define_of_not_taken h, h, false_and, reduceCtorEq]

theorem after_define_of_taken (h : r.Taken d.name) : r.after (.define d) = r := by
  rw [after, define_of_taken h, Except.toOption, Option.getD_none]

/-- After any calls the answer to a name is that of a walk from it, and the one that the registry
would give had it forgotten all others. A definition fails for a taken name only, and leaves the
registry as it is. -/
theorem resolves_by_walking (calls : List Call) (name : String) (d : TypeDecl) :
    (∀ answer, ((ofCalls calls).resolveName name).1 = answer ↔
      (ofCalls calls).ComesTo name answer) ∧
    ((ofCalls calls).resolveName name).1 =
      ({ ofCalls calls with answers := [] }.resolveName name).1 ∧
    (∀ next, (ofCalls calls).define d = .ok next ↔
      ¬ (ofCalls calls).Taken d.name ∧
        next = { ofCalls calls with definitions := (ofCalls calls).definitions ++ [d] }) ∧
    ∀ e, (ofCalls calls).define d = .error e ↔
      (ofCalls calls).Taken d.name ∧ e = .duplicateName .type d.name ∧
        ofCalls (calls ++ [.define d]) = ofCalls calls := by
  have hcomes := comesTo_resolveName (coherent_ofCalls calls) name
  refine ⟨fun answer => ⟨fun h => h ▸ hcomes, fun h => hcomes.unique h⟩,
    hcomes.unique (comesTo_resolveName_forgetful _ name), fun next => define_eq_ok, fun e => ?_⟩
  rw [define_eq_error, ofCalls_concat]
  constructor
  · rintro ⟨htaken, he⟩
    exact ⟨htaken, he, after_define_of_taken htaken⟩
  · rintro ⟨htaken, he, -⟩
    exact ⟨htaken, he⟩

end TypeRegistry

end Fixtures
