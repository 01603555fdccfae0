import Fixtures.Proofs.Dependency.References
import Fixtures.Proofs.Dependency.Settling

namespace Fixtures.DependencyGraph

variable {g : DependencyGraph} {pending before after : List Nat} {p : Progress} {node n child : Nat}

/-- A graph whose nodes have nodes for parents, none of them twice. -/
structure IsProper (g : DependencyGraph) : Prop where
  nodup : ∀ n, (g.parentsOf n).Nodup
  child : ∀ n, ∀ parent ∈ g.parentsOf n, n ∈ g.nodes
  bounded : ∀ n, ∀ parent ∈ g.parentsOf n, parent ∈ g.nodes

def awaited (g : DependencyGraph) (pending : List Nat) (n : Nat) : List Nat :=
  (g.parentsOf n).filter (· ∈ pending)

theorem mem_awaited {parent : Nat} :
    parent ∈ g.awaited pending n ↔ parent ∈ g.parentsOf n ∧ parent ∈ pending := by
  simp [awaited]

theorem awaited_eq_nil_iff :
    g.awaited pending n = [] ↔ ∀ parent ∈ g.parentsOf n, parent ∉ pending := by
  simp [awaited]

theorem awaited_ne_nil_iff :
    g.awaited pending n ≠ [] ↔ ∃ parent ∈ g.parentsOf n, parent ∈ pending := by
  simp [awaited]

theorem awaited_of_settled (hg : g.IsProper) (hnodup : (before ++ node :: after).Nodup) (n : Nat) :
    g.awaited (before ++ after) n = (g.awaited (before ++ node :: after) n).erase node := by
  have hnew : node ∉ before ++ after :=
    (List.nodup_cons.mp (List.perm_middle.nodup_iff.mp hnodup)).1
  unfold awaited
  rw [List.Nodup.erase_eq_filter ((hg.nodup n).filter _), List.filter_filter]
  refine List.filter_congr fun parent _ => ?_
  by_cases heq : parent = node
  · simpa [heq] using hnew
  · simp [heq]

theorem mem_childrenOf (hg : g.IsProper) : n ∈ g.childrenOf node ↔ node ∈ g.parentsOf n := by
  rw [childrenOf, List.mem_filter, List.contains_iff_mem, and_iff_right_iff_imp]
  exact hg.child n node

namespace Progress

theorem mem_insertNode {ns : List Nat} : n ∈ insertNode node ns ↔ n = node ∨ n ∈ ns := by
  induction ns with
  | nil => simp [insertNode]
  | cons m ns ih =>
    unfold insertNode
    split
    · simp
    · split
      · next heq => simp [heq]
      · rw [List.mem_cons, ih, List.mem_cons, or_left_comm]

theorem pairwise_insertNode {ns : List Nat} (h : ns.Pairwise (· < ·)) :
    (insertNode node ns).Pairwise (· < ·) := by
  induction ns with
  | nil => exact List.pairwise_singleton ..
  | cons m ns ih =>
    obtain ⟨hm, hns⟩ := List.pairwise_cons.mp h
    unfold insertNode
    split
    · next hlt =>
      exact List.pairwise_cons.mpr
        ⟨List.forall_mem_cons.mpr ⟨hlt, fun k hk => Nat.lt_trans hlt (hm k hk)⟩, h⟩
    · next hnot =>
      split
      · exact h
      · next hne =>
        refine List.pairwise_cons.mpr ⟨fun k hk => ?_, ih hns⟩
        rcases mem_insertNode.mp hk with rfl | hk
        · omega
        · exact hm k hk

/-- What counting off a parent of each of some nodes comes to. -/
structure Releases (p : Progress) (children : List Nat) (next : Progress) : Prop where
  length : next.counts.length = p.counts.length
  counts : ∀ n < p.counts.length, next.counts.getD n 0 =
    if n ∈ children then p.counts.getD n 0 - 1 else p.counts.getD n 0
  ready : ∀ n, n ∈ next.ready ↔ n ∈ p.ready ∨ n ∈ children ∧ p.counts.getD n 0 - 1 = 0
  sorted : p.ready.Pairwise (· < ·) → next.ready.Pairwise (· < ·)

theorem releases_release (hchild : child < p.counts.length) :
    p.Releases [child] (p.release child) := by
  unfold release
  refine ⟨by simp, fun n hn => ?_, fun n => ?_, fun hsorted => ?_⟩
  · by_cases heq : n = child
    · simp [heq, hchild]
    · simp [heq, Ne.symm heq]
  · simp only [List.mem_singleton]
    split
    · next hzero =>
      rw [mem_insertNode, or_comm]
      exact or_congr_right ⟨fun heq => ⟨heq, heq ▸ hzero⟩, And.left⟩
    · next hzero =>
      exact ⟨.inl, fun h => h.resolve_right fun hnew => hzero (hnew.1 ▸ hnew.2)⟩
  · simp only
    split
    · exact pairwise_insertNode hsorted
    · exact hsorted

theorem Releases.cons {children : List Nat} {mid next : Progress} (h : p.Releases [child] mid)
    (hbound : ∀ n ∈ children, n < p.counts.length) (hnew : child ∉ children)
    (hrest : mid.Releases children next) : p.Releases (child :: children) next := by
  refine ⟨hrest.length.trans h.length, fun n hn => ?_, fun n => ?_, fun hsorted =>
    hrest.sorted (h.sorted hsorted)⟩
  · rw [hrest.counts n (h.length ▸ hn), h.counts n hn]
    by_cases hchild : n = child
    · simp [hchild, hnew]
    · simp [hchild]
  · have hcount : n ∈ children → mid.counts.getD n 0 = p.counts.getD n 0 := by
      intro hn
      have hne : n ≠ child := fun heq => hnew (heq ▸ hn)
      rw [h.counts n (hbound n hn), if_neg (by simpa using hne)]
    have hlater : n ∈ children ∧ mid.counts.getD n 0 - 1 = 0 ↔
        n ∈ children ∧ p.counts.getD n 0 - 1 = 0 :=
      and_congr_right fun hn => by rw [hcount hn]
    rw [hrest.ready, h.ready, hlater, List.mem_singleton, List.mem_cons, or_and_right, or_assoc]

theorem releases_foldl {children : List Nat} (hnodup : children.Nodup)
    (hbound : ∀ child ∈ children, child < p.counts.length) :
    p.Releases children (children.foldl release p) := by
  induction children generalizing p with
  | nil => exact ⟨rfl, by simp, by simp, id⟩
  | cons child children ih =>
    obtain ⟨hnew, hnodup⟩ := List.nodup_cons.mp hnodup
    obtain ⟨hchild, hbound⟩ := List.forall_mem_cons.mp hbound
    have hone := releases_release hchild
    exact hone.cons hbound hnew (ih hnodup fun n hn => hone.length ▸ hbound n hn)

/-- The counts and the ready nodes for pending nodes. Nodes that are not pending wait for none of
them. -/
structure IsOf (g : DependencyGraph) (pending : List Nat) (p : Progress) : Prop where
  length : p.counts.length = g.tables.length
  counts : ∀ n ∈ g.nodes, p.counts.getD n 0 = (g.awaited pending n).length
  ready : ∀ n, n ∈ p.ready ↔ n ∈ pending ∧ g.awaited pending n = []
  sorted : p.ready.Pairwise (· < ·)
  settled : ∀ n ∈ g.nodes, n ∉ pending → g.awaited pending n = []

/-- A child of a settled node is released for good if that node is all it waits for. -/
theorem IsOf.count_sub_one_eq_zero_iff (hg : g.IsProper) (hmem : node ∈ pending)
    (h : p.IsOf g pending) (hnone : g.awaited pending node = []) :
    n ∈ g.childrenOf node ∧ p.counts.getD n 0 - 1 = 0 ↔
      (n ∈ pending ∧ n ≠ node) ∧ g.awaited pending n = [node] := by
  constructor
  · rintro ⟨hchild, hcount⟩
    have hn : n ∈ g.nodes := (List.mem_filter.mp hchild).1
    have hwaits : node ∈ g.awaited pending n :=
      mem_awaited.mpr ⟨(mem_childrenOf hg).mp hchild, hmem⟩
    have hpos := List.length_pos_of_mem hwaits
    rw [h.counts n hn] at hcount
    obtain ⟨only, honly⟩ := List.length_eq_one_iff.mp (by omega : (g.awaited pending n).length = 1)
    rw [honly, List.mem_singleton] at hwaits
    subst hwaits
    refine ⟨⟨?_, ?_⟩, honly⟩
    · apply Classical.byContradiction
      intro hnot
      rw [h.settled n hn hnot] at honly
      cases honly
    · rintro rfl
      rw [hnone] at honly
      cases honly
  · rintro ⟨-, honly⟩
    have hwaits : node ∈ g.awaited pending n := by simp [honly]
    have hchild : n ∈ g.childrenOf node := (mem_childrenOf hg).mpr (mem_awaited.mp hwaits).1
    refine ⟨hchild, ?_⟩
    rw [h.counts n (List.mem_filter.mp hchild).1, honly]
    rfl

theorem IsOf.next {ready : List Nat} {counts : List Nat} (hg : g.IsProper)
    (hnodup : (before ++ node :: after).Nodup)
    (h : IsOf g (before ++ node :: after) ⟨counts, node :: ready⟩) :
    IsOf g (before ++ after) ((g.childrenOf node).foldl release ⟨counts, ready⟩) := by
  have hmem : node ∈ before ++ node :: after := by simp
  have hnone : g.awaited (before ++ node :: after) node = [] :=
    ((h.ready node).mp List.mem_cons_self).2
  have hawaited := awaited_of_settled hg hnodup
  obtain ⟨hfirst, hsorted⟩ := List.pairwise_cons.mp h.sorted
  have hreleases : Progress.Releases ⟨counts, ready⟩ (g.childrenOf node)
      ((g.childrenOf node).foldl release ⟨counts, ready⟩) :=
    releases_foldl (List.nodup_range.filter _) fun n hn =>
      h.length ▸ List.mem_range.mp (List.mem_filter.mp hn).1
  have hchildren : ∀ n, n ∈ g.childrenOf node ↔ node ∈ g.awaited (before ++ node :: after) n := by
    intro n
    rw [mem_childrenOf hg, mem_awaited, and_iff_left hmem]
  have hstill : ∀ n, n ∈ ready ↔ (n ∈ before ++ node :: after ∧ n ≠ node) ∧
      g.awaited (before ++ node :: after) n = [] := by
    intro n
    rw [and_right_comm, ← h.ready, List.mem_cons]
    constructor
    · exact fun hn => ⟨.inr hn, Nat.ne_of_gt (hfirst n hn)⟩
    · exact fun hn => hn.1.resolve_left hn.2
  refine ⟨hreleases.length.trans h.length, fun n hn => ?_, fun n => ?_, hreleases.sorted hsorted,
    fun n hn hnot => ?_⟩
  · have hcount : counts.getD n 0 = (g.awaited (before ++ node :: after) n).length := h.counts n hn
    rw [hreleases.counts n (h.length ▸ List.mem_range.mp hn), hawaited, List.length_erase, hcount]
    simp only [hchildren]
  · rw [hreleases.ready, hstill, h.count_sub_one_eq_zero_iff hg hmem hnone, ← and_or_left,
      hawaited, List.erase_eq_nil_iff, mem_without hnodup]
  · rw [hawaited]
    by_cases heq : n = node
    · rw [heq, hnone]
      rfl
    · rw [h.settled n hn fun hmem => hnot ((mem_without hnodup).mpr ⟨hmem, heq⟩)]
      rfl

/-- Nodes that wait for a parent in the end are the pending ones, if each of these has a pending
parent. -/
theorem IsOf.blocked_eq (h : p.IsOf g pending) (hnodes : ∀ n ∈ pending, n ∈ g.nodes)
    (hsorted : pending.Pairwise (· < ·)) (hblocked : g.AreBlocked pending) :
    p.blocked = pending := by
  have hmem : ∀ n, n ∈ p.blocked ↔ n ∈ pending := by
    intro n
    rw [blocked, List.mem_filter, List.mem_range, h.length, decide_eq_true_eq]
    constructor
    · rintro ⟨hn, hpos⟩
      have hnode : n ∈ g.nodes := List.mem_range.mpr hn
      rw [h.counts n hnode] at hpos
      apply Classical.byContradiction
      intro hnot
      rw [h.settled n hnode hnot] at hpos
      exact Nat.lt_irrefl 0 hpos
    · intro hn
      refine ⟨List.mem_range.mp (hnodes n hn), ?_⟩
      rw [h.counts n (hnodes n hn)]
      exact List.length_pos_iff.mpr (awaited_ne_nil_iff.mpr (hblocked n hn))
  have hleft : p.blocked.Pairwise (· < ·) := List.pairwise_lt_range.filter _
  have hperm : p.blocked.Perm pending :=
    (List.perm_ext_iff_of_nodup (hleft.imp Nat.ne_of_lt) (hsorted.imp Nat.ne_of_lt)).mpr hmem
  exact hperm.eq_of_pairwise (fun a b _ _ hab hba => absurd hba (Nat.lt_asymm hab)) hleft hsorted

end Progress

theorem isOf_start (hg : g.IsProper) : g.start.IsOf g g.nodes := by
  have hawaited : ∀ n, g.awaited g.nodes n = g.parentsOf n := fun n =>
    List.filter_eq_self.mpr fun parent hparent => decide_eq_true (hg.bounded n parent hparent)
  refine ⟨by simp [start], fun n hn => ?_, fun n => ?_, List.pairwise_lt_range.filter _,
    fun n hn hnot => absurd hn hnot⟩
  · rw [hawaited, start]
    simp [List.mem_range.mp hn]
  · rw [hawaited, start, List.mem_filter, List.isEmpty_iff]
    rfl

theorem settles_of_not_ready (h : p.IsOf g pending) (hnodes : ∀ n ∈ pending, n ∈ g.nodes)
    (hsorted : pending.Pairwise (· < ·)) (hnone : ∀ n ∈ pending, n ∉ p.ready) :
    g.Settles pending [] p.blocked := by
  have hblocked : g.AreBlocked pending := fun n hn =>
    awaited_ne_nil_iff.mp fun hnil => hnone n hn ((h.ready n).mpr ⟨hn, hnil⟩)
  rw [h.blocked_eq hnodes hsorted hblocked]
  exact .stuck hblocked

/-- Steps settle pending nodes, always the first that waits for none, and the nodes that wait for a
parent in the end are those that stay blocked. -/
theorem settles_settleFrom (hg : g.IsProper) {steps : Nat} (h : p.IsOf g pending)
    (hnodes : ∀ n ∈ pending, n ∈ g.nodes) (hsorted : pending.Pairwise (· < ·))
    (hsteps : pending.length ≤ steps) :
    g.Settles pending (g.settleFrom steps p).1 (g.settleFrom steps p).2.blocked := by
  induction steps generalizing pending p with
  | zero =>
    cases List.eq_nil_of_length_eq_zero (Nat.le_zero.mp hsteps)
    exact settles_of_not_ready h hnodes hsorted fun _ hn => absurd hn List.not_mem_nil
  | succ steps ih =>
    obtain ⟨counts, ready⟩ := p
    cases ready with
    | nil => exact settles_of_not_ready h hnodes hsorted fun _ _ => List.not_mem_nil
    | cons node ready =>
      obtain ⟨hmem, hnone⟩ := (h.ready node).mp List.mem_cons_self
      obtain ⟨before, after, rfl⟩ := List.append_of_mem hmem
      have hsub : (before ++ after).Sublist (before ++ node :: after) :=
        List.Sublist.append_left (List.sublist_cons_self node after) before
      have hfirst : ∀ n ∈ before, ∃ parent ∈ g.parentsOf n, parent ∈ before ++ node :: after := by
        intro n hn
        apply awaited_ne_nil_iff.mp
        intro hnil
        have hready := (h.ready n).mpr ⟨List.mem_append_left _ hn, hnil⟩
        have hlt : n < node := (List.pairwise_append.mp hsorted).2.2 n hn node List.mem_cons_self
        rcases List.mem_cons.mp hready with rfl | hlater
        · exact Nat.lt_irrefl _ hlt
        · exact Nat.lt_asymm hlt ((List.pairwise_cons.mp h.sorted).1 n hlater)
      have hlength : (before ++ after).length ≤ steps := by
        simp only [List.length_append, List.length_cons] at hsteps ⊢
        omega
      exact .next hfirst (awaited_eq_nil_iff.mp hnone)
        (ih (h.next hg (hsorted.imp Nat.ne_of_lt)) (fun n hn => hnodes n (hsub.subset hn))
          (hsorted.sublist hsub) hlength)

theorem isProper_ofReferences (references : List (String × List String)) :
    (ofReferences references).IsProper where
  nodup := nodup_parentsOf references
  child _ _ hparent :=
    have ⟨_, _, hchild, _⟩ := mem_parentsOf.mp hparent
    mem_nodes_of_getElem? hchild
  bounded _ _ hparent :=
    have ⟨_, _, _, hparent, _⟩ := mem_parentsOf.mp hparent
    mem_nodes_of_getElem? hparent

theorem settles_settle (references : List (String × List String)) :
    (ofReferences references).Settles (ofReferences references).nodes
      (ofReferences references).settle.1 (ofReferences references).settle.2.blocked :=
  have hg := isProper_ofReferences references
  settles_settleFrom hg (isOf_start hg) (fun _ hn => hn) List.pairwise_lt_range (by simp [nodes])

end Fixtures.DependencyGraph
