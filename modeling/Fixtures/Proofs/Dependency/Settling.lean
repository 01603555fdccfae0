import Mathlib.Data.List.Chain
import Fixtures.Schema.Dependency

namespace Fixtures.DependencyGraph

section

variable {g : DependencyGraph} {pending settled blocked other : List Nat} {node n p : Nat}

def AreBlocked (g : DependencyGraph) (pending : List Nat) : Prop :=
  ∀ n ∈ pending, ∃ p ∈ g.parentsOf n, p ∈ pending

/-- Pending nodes, those of them that are settled one after the other, and those that stay
blocked. -/
inductive Settles (g : DependencyGraph) : List Nat → List Nat → List Nat → Prop
  | stuck {pending : List Nat} : g.AreBlocked pending → Settles g pending [] pending
  | next {before after settled blocked : List Nat} {node : Nat} :
      (∀ n ∈ before, ∃ p ∈ g.parentsOf n, p ∈ before ++ node :: after) →
      (∀ p ∈ g.parentsOf node, p ∉ before ++ node :: after) →
      Settles g (before ++ after) settled blocked →
      Settles g (before ++ node :: after) (node :: settled) blocked

theorem mem_without {before after : List Nat} (h : (before ++ node :: after).Nodup) :
    n ∈ before ++ after ↔ n ∈ before ++ node :: after ∧ n ≠ node := by
  have hnew : node ∉ before ++ after := (List.nodup_cons.mp (List.perm_middle.nodup_iff.mp h)).1
  rw [List.perm_middle.mem_iff, List.mem_cons]
  constructor
  · exact fun hn => ⟨.inr hn, fun heq => hnew (heq ▸ hn)⟩
  · exact fun hn => hn.1.resolve_left hn.2

/-- An order of pending nodes, each of which comes after its pending parents. -/
structure InOrder (g : DependencyGraph) (pending order : List Nat) : Prop where
  perm : order.Perm pending
  after : ∀ before n rest, order = before ++ n :: rest → ∀ p ∈ g.parentsOf n, p ∈ pending →
    p ∈ before

namespace Settles

theorem perm (h : g.Settles pending settled blocked) : (settled ++ blocked).Perm pending := by
  induction h with
  | stuck => exact List.Perm.refl _
  | next _ _ _ ih => exact (ih.cons _).trans List.perm_middle.symm

theorem areBlocked (h : g.Settles pending settled blocked) : g.AreBlocked blocked := by
  induction h with
  | stuck hblocked => exact hblocked
  | next _ _ _ ih => exact ih

theorem after (h : g.Settles pending settled blocked) : ∀ before n rest,
    settled = before ++ n :: rest → ∀ p ∈ g.parentsOf n, p ∈ pending → p ∈ before := by
  induction h with
  | stuck => simp
  | @next _ _ _ _ node _ hready _ ih =>
    intro before n rest heq p hp hpending
    cases before with
    | nil =>
      cases heq
      exact absurd hpending (hready p hp)
    | cons first before =>
      cases heq
      rw [List.mem_append, List.mem_cons, or_left_comm, ← List.mem_append] at hpending
      rcases hpending with rfl | hpending
      · exact List.mem_cons_self
      · exact List.mem_cons_of_mem _ (ih before n rest rfl p hp hpending)

theorem of_no_parents (h : g.Settles pending settled blocked) (hnone : ∀ n, g.parentsOf n = []) :
    settled = pending ∧ blocked = [] := by
  have hfree : ∀ {ns all : List Nat}, (∀ n ∈ ns, ∃ p ∈ g.parentsOf n, p ∈ all) → ns = [] := by
    intro ns all hwait
    rw [List.eq_nil_iff_forall_not_mem]
    intro n hn
    obtain ⟨p, hp, -⟩ := hwait n hn
    rw [hnone] at hp
    cases hp
  induction h with
  | stuck hblocked => exact ⟨(hfree hblocked).symm, hfree hblocked⟩
  | @next before after _ _ _ hbefore _ _ ih =>
    cases hfree hbefore
    obtain ⟨rfl, hblocked⟩ := ih
    exact ⟨rfl, hblocked⟩

theorem inOrder (h : g.Settles pending settled []) : g.InOrder pending settled :=
  ⟨by simpa using h.perm, h.after⟩

end Settles

theorem InOrder.tail {before after : List Nat}
    (h : g.InOrder (before ++ node :: after) (node :: other))
    (hnodup : (before ++ node :: after).Nodup) : g.InOrder (before ++ after) other := by
  refine ⟨List.Perm.cons_inv (h.perm.trans List.perm_middle), fun ns n rest heq p hp hpending => ?_⟩
  obtain ⟨hmem, hne⟩ := (mem_without hnodup).mp hpending
  have hbefore := h.after (node :: ns) n rest (by rw [heq, List.cons_append]) p hp hmem
  exact (List.mem_cons.mp hbefore).resolve_left hne

theorem Settles.least (h : g.Settles pending settled []) (hsorted : pending.Pairwise (· < ·))
    (hother : g.InOrder pending other) : other = settled ∨ List.Lex (· < ·) settled other := by
  generalize hnone : ([] : List Nat) = blocked at h
  induction h generalizing other with
  | stuck =>
    subst hnone
    exact .inl (List.perm_nil.mp hother.perm)
  | @next before after settled blocked node hbefore hready _ ih =>
    cases other with
    | nil => simpa using hother.perm.length_eq
    | cons first other =>
      have hfirst : first ∈ before ++ node :: after := hother.perm.subset List.mem_cons_self
      obtain ⟨-, hrest, -⟩ := List.pairwise_append.mp hsorted
      -- The other order starts with a node that can be settled, and `node` is the least of these.
      have hle : node ≤ first := by
        rcases List.mem_append.mp hfirst with hmem | hmem
        · obtain ⟨p, hp, hpending⟩ := hbefore first hmem
          exact absurd (hother.after [] first other rfl p hp hpending) List.not_mem_nil
        · rcases List.mem_cons.mp hmem with rfl | hmem
          · exact Nat.le_refl _
          · exact Nat.le_of_lt ((List.pairwise_cons.mp hrest).1 first hmem)
      rcases Nat.lt_or_eq_of_le hle with hlt | rfl
      · exact .inr (.rel hlt)
      · have hleft : (before ++ after).Sublist (before ++ node :: after) :=
          List.Sublist.append_left (List.sublist_cons_self node after) before
        rcases ih (hsorted.sublist hleft) (hother.tail (hsorted.imp Nat.ne_of_lt)) hnone
          with heq | hlt
        · exact .inl (by rw [heq])
        · exact .inr (.cons hlt)

end

section

variable {g : DependencyGraph} {blocked fresh path cycle : List Nat} {node : Nat}

/-- A walk goes on from a node to its first blocked parent until a node comes again, and closes the
cycle of the nodes from there on. -/
inductive Closes (g : DependencyGraph) (blocked : List Nat) : List Nat → Nat → List Nat → Prop
  | back {path : List Nat} {node : Nat} : node ∈ path →
      Closes g blocked path node (path.dropWhile (· ≠ node))
  | step {path cycle : List Nat} {node parent : Nat} : node ∉ path →
      (g.parentsOf node).find? blocked.contains = some parent →
      Closes g blocked (path ++ [node]) parent cycle → Closes g blocked path node cycle

theorem exists_blocked_parent (h : g.AreBlocked blocked) (hnode : node ∈ blocked) :
    ∃ parent ∈ blocked, (g.parentsOf node).find? blocked.contains = some parent := by
  obtain ⟨p, hp, hblocked⟩ := h node hnode
  cases hfind : (g.parentsOf node).find? blocked.contains with
  | none => exact absurd (List.contains_iff_mem.mpr hblocked) (List.find?_eq_none.mp hfind p hp)
  | some parent => exact ⟨parent, List.contains_iff_mem.mp (List.find?_some hfind), rfl⟩

/-- A walk closes: every blocked node that is not on the path yet is fresh, and one of them is used
up by each step. -/
theorem closes_closeWalk (h : g.AreBlocked blocked) (hnode : node ∈ blocked)
    (hfresh : ∀ n ∈ blocked, n ∈ path ∨ n ∈ fresh) :
    g.Closes blocked path node (g.closeWalk blocked fresh path node) := by
  fun_induction closeWalk g blocked fresh path node with
  | case1 fresh path node hmem => exact .back hmem
  | case2 fresh path node hnew hunvisited parent hparent ih =>
    obtain ⟨parent', hblocked, hfind⟩ := exists_blocked_parent h hnode
    rw [hparent] at hfind
    cases hfind
    refine .step hnew hparent (ih hblocked fun n hn => ?_)
    by_cases heq : n = node
    · exact .inl (by simp [heq])
    · rcases hfresh n hn with hpath | hn
      · exact .inl (List.mem_append_left _ hpath)
      · exact .inr ((List.mem_erase_of_ne heq).mpr hn)
  | case3 fresh path node hnew hunvisited hnone =>
    obtain ⟨parent, -, hfind⟩ := exists_blocked_parent h hnode
    rw [hnone] at hfind
    cases hfind
  | case4 fresh path node hnew hvisited =>
    rcases hfresh node hnode with hpath | hunvisited
    · exact absurd hpath hnew
    · exact absurd hunvisited hvisited

theorem closes_cycleIn {first : Nat} {rest : List Nat} (h : g.AreBlocked (first :: rest)) :
    g.Closes (first :: rest) [] first (g.cycleIn (first :: rest)) :=
  closes_closeWalk h List.mem_cons_self fun _ hn => .inr hn

theorem Closes.subset (h : g.Closes blocked path node cycle) (hpath : ∀ n ∈ path, n ∈ blocked)
    (hnode : node ∈ blocked) : ∀ n ∈ cycle, n ∈ blocked := by
  induction h with
  | back => exact fun n hn => hpath n (List.dropWhile_sublist _ |>.subset hn)
  | step _ hparent _ ih =>
    refine ih (fun n hn => ?_) (List.contains_iff_mem.mp (List.find?_some hparent))
    rcases List.mem_append.mp hn with hn | hn
    · exact hpath n hn
    · exact List.mem_singleton.mp hn ▸ hnode

/-- Elements that lead from each to the next and from the last to the first, none of them twice. -/
structure IsCycle {α : Type} (r : α → α → Prop) (cycle : List α) : Prop where
  nodup : cycle.Nodup
  closed : ∃ first rest, cycle = first :: rest ∧ (first :: rest ++ [first]).IsChain r

theorem isCycle_dropWhile (hnodup : path.Nodup) (hmem : node ∈ path)
    (hchain : (path ++ [node]).IsChain fun n p => p ∈ g.parentsOf n) :
    IsCycle (fun n p => p ∈ g.parentsOf n) (path.dropWhile (· ≠ node)) := by
  obtain ⟨before, rest, rfl⟩ := List.append_of_mem hmem
  have hbefore : ∀ n ∈ before, (decide (n ≠ node)) = true := by
    intro n hn
    have hne := (List.nodup_append.mp hnodup).2.2 n hn node List.mem_cons_self
    exact decide_eq_true hne
  have hdrop : (before ++ node :: rest).dropWhile (· ≠ node) = node :: rest := by
    rw [List.dropWhile_append_of_pos hbefore, List.dropWhile_cons_of_neg (by simp)]
  rw [hdrop]
  refine ⟨(List.nodup_append.mp hnodup).2.1, node, rest, rfl, ?_⟩
  rw [List.append_assoc] at hchain
  exact (List.isChain_append.mp hchain).2.1

theorem Closes.isCycle (h : g.Closes blocked path node cycle) (hnodup : path.Nodup)
    (hchain : (path ++ [node]).IsChain fun n p => p ∈ g.parentsOf n) :
    IsCycle (fun n p => p ∈ g.parentsOf n) cycle := by
  induction h with
  | back hmem => exact isCycle_dropWhile hnodup hmem hchain
  | @step path cycle node parent hnew hparent _ ih =>
    refine ih ?_ ?_
    · refine List.nodup_append.mpr ⟨hnodup, by simp, fun n hn m hm heq => ?_⟩
      exact hnew (List.mem_singleton.mp hm ▸ heq ▸ hn)
    · refine List.isChain_append.mpr ⟨hchain, List.isChain_singleton _, fun n hn p hp => ?_⟩
      rw [List.getLast?_concat, Option.mem_some_iff] at hn
      cases hn
      cases hp
      exact List.mem_of_find?_eq_some hparent

theorem IsCycle.map {α β : Type} {r : α → α → Prop} {q : β → β → Prop} {f : α → β} {cycle : List α}
    (h : IsCycle r cycle) (hf : ∀ a ∈ cycle, ∀ b ∈ cycle, f a = f b → a = b)
    (hmap : ∀ a b, r a b → q (f a) (f b)) : IsCycle q (cycle.map f) := by
  obtain ⟨hnodup, first, rest, rfl, hchain⟩ := h
  have hmapped : ((first :: rest).map f).Nodup :=
    List.pairwise_map.mpr (hnodup.imp_of_mem fun ha hb hne heq => hne (hf _ ha _ hb heq))
  refine ⟨hmapped, f first, rest.map f, rfl, ?_⟩
  have hlinked : ((first :: rest ++ [first]).map f).IsChain q :=
    (List.isChain_map f).mpr (hchain.imp hmap)
  simpa using hlinked

theorem IsCycle.exists_next {α : Type} {r : α → α → Prop} {first : α} {rest : List α}
    (h : IsCycle r (first :: rest)) : ∃ next, r first next := by
  obtain ⟨-, _, _, heq, hchain⟩ := h
  cases heq
  cases rest with
  | nil => exact ⟨first, (List.isChain_cons_cons.mp hchain).1⟩
  | cons next rest => exact ⟨next, (List.isChain_cons_cons.mp hchain).1⟩

theorem transGen_of_isChain {α : Type} {r : α → α → Prop} {first last : α} {rest : List α}
    (h : (first :: rest ++ [last]).IsChain r) : Relation.TransGen r first last := by
  induction rest generalizing first with
  | nil => exact .single (List.isChain_cons_cons.mp h).1
  | cons next rest ih =>
    obtain ⟨hnext, hrest⟩ := List.isChain_cons_cons.mp h
    exact (ih hrest).head hnext

theorem IsCycle.transGen {α : Type} {r : α → α → Prop} {cycle : List α} (h : IsCycle r cycle) :
    ∃ a, Relation.TransGen r a a := by
  obtain ⟨-, first, rest, -, hchain⟩ := h
  exact ⟨first, transGen_of_isChain hchain⟩

end

end Fixtures.DependencyGraph
