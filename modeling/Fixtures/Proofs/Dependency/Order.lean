import Fixtures.Model.Analysis
import Fixtures.Proofs.Dependency.Counting
import Fixtures.Proofs.Dependency.Settling
import Fixtures.Proofs.Outcome

namespace Fixtures.DependencyGraph

variable {references : List (String × List String)} {child parent : String}
    {order other : List String}
  {ns settled : List Nat}

structure IsOrder (references : List (String × List String)) (order : List String) : Prop where
  perm : order.Perm (declaredNames references)
  after : ∀ before child rest, order = before ++ child :: rest →
    ∀ parent, Refers references child parent → parent ∈ before

/-- The order that comes before all others when the positions of their tables are compared one by
one. -/
structure IsLeastOrder (references : List (String × List String)) (order : List String) : Prop
    extends IsOrder references order where
  least : ∀ other, IsOrder references other →
    other = order ∨ List.Lex (· < ·) (positions references order) (positions references other)

def HasCycle (references : List (String × List String)) : Prop :=
  ∃ table, Relation.TransGen (Refers references) table table

theorem isOrder_names (h : (ofReferences references).InOrder (ofReferences references).nodes ns) :
    IsOrder references ((ofReferences references).names ns) := by
  refine ⟨?_, fun before child rest heq parent hrefers => ?_⟩
  · rw [← names_nodes]
    exact h.perm.map _
  · obtain ⟨bs, tail, rfl, rfl, htail⟩ := List.map_eq_append_iff.mp heq
    obtain ⟨n, rs, rfl, rfl, -⟩ := List.map_eq_cons_iff.mp htail
    have hn : n ∈ (ofReferences references).nodes := h.perm.subset (by simp)
    have hparent := position_mem_parentsOf hrefers
    rw [position_nameOf hn] at hparent
    have hpending := mem_nodes_of_getElem? (getElem?_position hrefers.parent_mem)
    rw [← nameOf_position hrefers.parent_mem]
    exact List.mem_map_of_mem (h.after bs n rs rfl _ hparent hpending)

theorem inOrder_positions (h : IsOrder references order) :
    (ofReferences references).InOrder (ofReferences references).nodes
      (positions references order) := by
  refine ⟨?_, fun before n rest heq p hp _ => ?_⟩
  · rw [← positions_names (fun n hn => hn), names_nodes]
    exact h.perm.map _
  · obtain ⟨bs, tail, rfl, rfl, htail⟩ := List.map_eq_append_iff.mp heq
    obtain ⟨child, rs, rfl, rfl, -⟩ := List.map_eq_cons_iff.mp htail
    have hchild : child ∈ declaredNames references := h.perm.subset (by simp)
    have hrefers := refers_nameOf hp
    rw [nameOf_position hchild] at hrefers
    have hmem := List.mem_map_of_mem (f := position references) (h.after bs child rs rfl _ hrefers)
    obtain ⟨_, parent, _, hparent, _⟩ := mem_parentsOf.mp hp
    rwa [position_nameOf (mem_nodes_of_getElem? hparent)] at hmem

theorem IsOrder.idxOf_lt (h : IsOrder references order) (hrefers : Refers references child parent) :
    order.idxOf parent < order.idxOf child := by
  have hchild := h.perm.symm.subset hrefers.child_mem
  obtain ⟨before, rest, rfl, hnew⟩ := List.eq_append_cons_of_mem hchild
  have hparent := h.after before child rest rfl parent hrefers
  rw [List.idxOf_append, List.idxOf_append, if_pos hparent, if_neg hnew]
  have hlt := List.idxOf_lt_length_iff.mpr hparent
  omega

theorem IsOrder.not_hasCycle (h : IsOrder references order) : ¬ HasCycle references := by
  have hlt : ∀ {child parent}, Relation.TransGen (Refers references) child parent →
      order.idxOf parent < order.idxOf child := by
    intro child parent hleads
    induction hleads with
    | single hrefers => exact h.idxOf_lt hrefers
    | tail _ hrefers ih => exact Nat.lt_trans (h.idxOf_lt hrefers) ih
  rintro ⟨table, hleads⟩
  exact Nat.lt_irrefl _ (hlt hleads)

theorem isCycle_names {first : Nat} {rest : List Nat}
    (h : (ofReferences references).Settles (ofReferences references).nodes settled
      (first :: rest)) :
    IsCycle (Refers references)
      ((ofReferences references).names ((ofReferences references).cycleIn (first :: rest))) := by
  have hcloses := closes_cycleIn h.areBlocked
  have hcycle := hcloses.isCycle List.nodup_nil (List.isChain_singleton _)
  have hnode : ∀ n ∈ (ofReferences references).cycleIn (first :: rest),
      n ∈ (ofReferences references).nodes := fun n hn =>
    h.perm.subset (List.mem_append_right _ (hcloses.subset (by simp) List.mem_cons_self n hn))
  refine hcycle.map (fun a ha b hb heq => ?_) fun _ _ => refers_nameOf
  rw [← position_nameOf (hnode a ha), heq, position_nameOf (hnode b hb)]

theorem order_cases (references : List (String × List String)) :
    (∃ settled, (ofReferences references).Settles (ofReferences references).nodes settled [] ∧
        (ofReferences references).order = .ok ((ofReferences references).names settled)) ∨
      ∃ settled first rest, (ofReferences references).settle.2.blocked = first :: rest ∧
        (ofReferences references).Settles (ofReferences references).nodes settled (first :: rest) ∧
        (ofReferences references).order =
          .error (.circularDependency ((ofReferences references).names
          ((ofReferences references).cycleIn (first :: rest)))) := by
  have hsettles := settles_settle references
  have hlength : (ofReferences references).settle.1.length +
      (ofReferences references).settle.2.blocked.length =
      (ofReferences references).tables.length := by
    rw [← List.length_append, hsettles.perm.length_eq, nodes, List.length_range]
  rw [order]
  cases hblocked : (ofReferences references).settle.2.blocked with
  | nil =>
    rw [hblocked] at hsettles hlength
    exact .inl ⟨_, hsettles, if_pos hlength⟩
  | cons first rest =>
    rw [hblocked] at hsettles hlength
    refine .inr ⟨_, first, rest, rfl, hsettles, ?_⟩
    rw [List.length_cons] at hlength
    simp only [hblocked]
    exact if_neg (by omega)

theorem exists_order (h : ¬ HasCycle references) :
    ∃ order, (ofReferences references).order = .ok order := by
  rcases order_cases references with ⟨settled, -, horder⟩ | ⟨settled, first, rest, -, hsettles, -⟩
  · exact ⟨_, horder⟩
  · exact absurd (isCycle_names hsettles).transGen h

theorem isLeastOrder_of_settles
    (h : (ofReferences references).Settles (ofReferences references).nodes settled []) :
    IsLeastOrder references ((ofReferences references).names settled) := by
  refine ⟨isOrder_names h.inOrder, fun other hother => ?_⟩
  have hsettled := positions_names fun n hn => h.inOrder.perm.subset hn
  rcases h.least List.pairwise_lt_range (inOrder_positions hother) with heq | hlt
  · rw [← heq, names_positions fun name hname => hother.perm.subset hname]
    exact .inl rfl
  · rw [hsettled]
    exact .inr hlt

theorem isLeastOrder_of_order (h : (ofReferences references).order = .ok order) :
    IsLeastOrder references order := by
  rcases order_cases references with ⟨settled, hsettles, horder⟩ | ⟨settled, first, rest, -, -,
    horder⟩
  · rw [horder] at h
    cases h
    exact isLeastOrder_of_settles hsettles
  · rw [horder] at h
    cases h

theorem exists_order_iff :
    (∃ order, (ofReferences references).order = .ok order) ↔ ¬ HasCycle references :=
  ⟨fun ⟨_, h⟩ => (isLeastOrder_of_order h).toIsOrder.not_hasCycle, exists_order⟩

theorem IsLeastOrder.unique (h : IsLeastOrder references order)
    (hother : IsLeastOrder references other) :
    order = other := by
  rcases h.least other hother.toIsOrder with heq | hlt
  · exact heq.symm
  · rcases hother.least order h.toIsOrder with heq | hgt
    · exact heq
    · exact absurd hgt (List.lex_asymm Nat.lt_asymm hlt)

theorem order_eq_ok : (ofReferences references).order = .ok order ↔
    IsLeastOrder references order := by
  refine ⟨isLeastOrder_of_order, fun h => ?_⟩
  obtain ⟨found, hfound⟩ := exists_order h.toIsOrder.not_hasCycle
  rw [hfound, (isLeastOrder_of_order hfound).unique h]

theorem order_of_no_references (h : ∀ child parent, ¬ Refers references child parent) :
    (ofReferences references).order = .ok (declaredNames references) := by
  have hparents : ∀ n, (ofReferences references).parentsOf n = [] := by
    intro n
    rw [List.eq_nil_iff_forall_not_mem]
    intro p hp
    exact h _ _ (refers_nameOf hp)
  obtain ⟨hsettled, hblocked⟩ := (settles_settle references).of_no_parents hparents
  rw [order]
  simp only [hsettled, nodes, List.length_range, if_true]
  rw [← nodes, names_nodes]

/-- An order of tables is found exactly if no table leads back to itself along references. It is the
least order in which each table comes after those that it references, and the order of declaration
if there are no references. -/
theorem order_is_least (references : List (String × List String)) :
    ((∃ order, (ofReferences references).order = .ok order) ↔ ¬ HasCycle references) ∧
      (∀ order, (ofReferences references).order = .ok order ↔ IsLeastOrder references order) ∧
      ((∀ child parent, ¬ Refers references child parent) →
        (ofReferences references).order = .ok (declaredNames references)) :=
  ⟨exists_order_iff, fun _ => order_eq_ok, order_of_no_references⟩

/-- Two tables stand in the middle between another two, and the one that is declared first comes
first. -/
def diamond : List (String × List String) :=
  [("d", ["c", "b"]), ("c", ["a"]), ("b", ["a", "a", "z"]), ("a", [])]

theorem order_diamond : (ofReferences diamond).order = .ok ["a", "c", "b", "d"] :=
  toOption_eq_some.mp (by decide +kernel)

theorem order_is_least_diamond :
    ¬ HasCycle diamond ∧ IsLeastOrder diamond ["a", "c", "b", "d"] ∧
      (ofReferences [("b", []), ("a", ["z"])]).order = .ok ["b", "a"] :=
  ⟨(order_is_least diamond).1.mp ⟨_, order_diamond⟩,
    ((order_is_least diamond).2.1 _).mp order_diamond,
    (order_is_least [("b", []), ("a", ["z"])]).2.2 (by simp [Refers])⟩

end Fixtures.DependencyGraph

namespace Fixtures

namespace Model

variable {m : Model} {s : Schema} {table : String}

def references (m : Model) : List (String × List String) :=
  m.tables.map fun t => (t.name, t.foreignKeys.map ForeignKey.targetTable)

theorem graph_eq (m : Model) : m.graph = .ofReferences m.references := rfl

theorem exists_table?_of_declared (h : table ∈ DependencyGraph.declaredNames m.references) :
    ∃ t, m.table? table = some t := by
  obtain ⟨r, hr, rfl⟩ := DependencyGraph.mem_declaredNames.mp h
  obtain ⟨t, ht, rfl⟩ := List.mem_map.mp hr
  exact Option.isSome_iff_exists.mp (List.find?_isSome.mpr ⟨t, ht, by simp⟩)

end Model

namespace DependencyGraph

variable {references : List (String × List String)} {e : SchemaError} {s : Schema} {m : Model}

/-- A walk from the first blocked node to blocked parents closes the cycle that is reported. -/
theorem exists_cycle_of_order (h : (ofReferences references).order = .error e) :
    ∃ start others, (ofReferences references).settle.2.blocked = start :: others ∧
      (ofReferences references).Closes (start :: others) [] start
        ((ofReferences references).cycleIn (start :: others)) ∧
      ∃ cycle, e = .circularDependency cycle ∧ IsCycle (Refers references) cycle := by
  rcases order_cases references with
    ⟨settled, -, horder⟩ | ⟨settled, start, others, hblocked, hsettles, horder⟩
  · rw [horder] at h
    cases h
  · rw [horder] at h
    cases h
    exact ⟨start, others, hblocked, closes_cycleIn hsettles.areBlocked, _, rfl,
      isCycle_names hsettles⟩

theorem exists_error_of_hasCycle (h : HasCycle references) :
    ∃ e, (ofReferences references).order = .error e := by
  cases horder : (ofReferences references).order with
  | error e => exact ⟨e, rfl⟩
  | ok order => exact absurd h (exists_order_iff.mp ⟨order, horder⟩)

theorem compile_of_hasCycle (hm : Model.ofSchema s = .ok m) (h : HasCycle m.references) :
    ∃ first rest t, IsCycle (Refers m.references) (first :: rest) ∧ m.table? first = some t ∧
      s.compile = .error {
        errors := [{
          severity := .error
          kind := .circularDependency
          message := (SchemaError.circularDependency (first :: rest)).message
          location := t.location
          table := some first }]
        warnings := m.warnings } := by
  obtain ⟨e, he⟩ := exists_error_of_hasCycle h
  obtain ⟨-, -, -, -, cycle, rfl, hcycle⟩ := exists_cycle_of_order he
  obtain ⟨first, rest, rfl, -⟩ := hcycle.closed
  obtain ⟨next, hrefers⟩ := hcycle.exists_next
  obtain ⟨t, ht⟩ := Model.exists_table?_of_declared hrefers.child_mem
  refine ⟨first, rest, t, hcycle, ht, ?_⟩
  have horder : m.graph.order = .error (.circularDependency (first :: rest)) := by
    rw [Model.graph_eq, he]
  have herror : m.cycleError (.circularDependency (first :: rest)) =
      { severity := .error
        kind := .circularDependency
        message := (SchemaError.circularDependency (first :: rest)).message
        location := t.location
        table := some first } := by
    simp only [Model.cycleError, ht]
    rfl
  rw [Schema.compile, hm]
  simp only [bind, Except.bind, horder, herror]
  rfl

/-- A reported cycle is one of references, which the walk from the first blocked node has closed
without getting stuck. Of a schema with a cycle of foreign keys it is all that is wrong: the one
error is about the first table of the cycle, and the warnings are those of the analysis. -/
theorem reported_cycle_closes :
    (∀ (references : List (String × List String)) (e : SchemaError),
      (ofReferences references).order = .error e →
        ∃ start others, (ofReferences references).settle.2.blocked = start :: others ∧
          (ofReferences references).Closes (start :: others) [] start
            ((ofReferences references).cycleIn (start :: others)) ∧
          ∃ cycle, e = .circularDependency cycle ∧ IsCycle (Refers references) cycle) ∧
    ∀ (s : Schema) (m : Model), Model.ofSchema s = .ok m → HasCycle m.references →
      ∃ first rest t, IsCycle (Refers m.references) (first :: rest) ∧ m.table? first = some t ∧
        s.compile = .error {
          errors := [{
            severity := .error
            kind := .circularDependency
            message := (SchemaError.circularDependency (first :: rest)).message
            location := t.location
            table := some first }]
          warnings := m.warnings } :=
  ⟨fun _ _ => exists_cycle_of_order, fun _ _ => compile_of_hasCycle⟩

/-- Two tables that reference each other, after a third one that references one of them. -/
def loop : List (String × List String) :=
  [("c", ["b"]), ("b", ["a"]), ("a", ["b"])]

def loopSchema : Schema :=
  let table (r : String × List String) : Table :=
    { name := r.1
      fields := [
        { name := "id", dataType := .primitive .integer, constraints := [.primaryKey none []] },
        { name := "other"
          dataType := .primitive .integer
          constraints := r.2.map fun target => .foreignKey ⟨none, [], target, ["id"], none⟩ }] }
  { name := "loop", tables := loop.map table }

theorem exists_loop_model : ∃ m, Model.ofSchema loopSchema = .ok m ∧ m.references = loop := by
  have h : (Model.ofSchema loopSchema).toOption.map Model.references = some loop := by
    decide +kernel
  obtain ⟨m, hm, hreferences⟩ := Option.map_eq_some_iff.mp h
  exact ⟨m, toOption_eq_some.mp hm, hreferences⟩

theorem hasCycle_loop : HasCycle loop :=
  ⟨"a", .tail (.single (by simp [Refers, loop] : Refers loop "a" "b")) (by simp [Refers, loop])⟩

theorem reported_cycle_closes_loop :
    (∃ e cycle, (ofReferences loop).order = .error e ∧ e = .circularDependency cycle ∧
      IsCycle (Refers loop) cycle) ∧
    ∃ m, Model.ofSchema loopSchema = .ok m ∧ HasCycle m.references ∧
      ∃ first rest d, IsCycle (Refers m.references) (first :: rest) ∧
        loopSchema.compile = .error ⟨[d], m.warnings⟩ ∧ d.table = some first := by
  obtain ⟨m, hm, hreferences⟩ := exists_loop_model
  have hcycle : HasCycle m.references := hreferences ▸ hasCycle_loop
  obtain ⟨e, he⟩ := exists_error_of_hasCycle hasCycle_loop
  obtain ⟨-, -, -, -, cycle, hcause, hclosed⟩ := reported_cycle_closes.1 loop e he
  obtain ⟨first, rest, t, hreported, -, hcompile⟩ :=
    reported_cycle_closes.2 loopSchema m hm hcycle
  exact ⟨⟨e, cycle, he, hcause, hclosed⟩, m, hm, hcycle, first, rest, _, hreported, hcompile, rfl⟩

end DependencyGraph

end Fixtures
