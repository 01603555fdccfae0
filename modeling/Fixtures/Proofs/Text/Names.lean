import Fixtures.Text.Names

namespace Fixtures.Text

variable {name x : String} {names others : List String}

theorem mem_insertName : x ∈ insertName name names ↔ x = name ∨ x ∈ names := by
  induction names with
  | nil => simp [insertName]
  | cons n names ih =>
    unfold insertName
    split
    · simp
    · split
      · next heq => simp [heq]
      · simp only [List.mem_cons, ih]
        exact or_left_comm

theorem mem_nameSet : x ∈ nameSet names ↔ x ∈ names := by
  induction names with
  | nil => rfl
  | cons n names ih => rw [nameSet, List.foldr_cons, mem_insertName, List.mem_cons, ← ih, nameSet]

theorem pairwise_insertName (h : names.Pairwise (· < ·)) :
    (insertName name names).Pairwise (· < ·) := by
  induction names with
  | nil => exact List.pairwise_singleton ..
  | cons n names ih =>
    obtain ⟨hn, hnames⟩ := List.pairwise_cons.mp h
    unfold insertName
    split
    · next hlt =>
      refine List.pairwise_cons.mpr ⟨List.forall_mem_cons.mpr ⟨hlt, fun y hy => ?_⟩, h⟩
      exact String.lt_trans hlt (hn y hy)
    · next hnot =>
      split
      · exact h
      · next hne =>
        refine List.pairwise_cons.mpr ⟨fun y hy => ?_, ih hnames⟩
        rcases mem_insertName.mp hy with rfl | hy
        · apply Classical.byContradiction
          intro hle
          exact hne (String.le_antisymm (String.not_lt.mp hle) (String.not_lt.mp hnot))
        · exact hn y hy

theorem pairwise_nameSet (names : List String) : (nameSet names).Pairwise (· < ·) := by
  induction names with
  | nil => exact .nil
  | cons n names ih => exact pairwise_insertName ih

theorem nodup_nameSet (names : List String) : (nameSet names).Nodup := by
  refine (pairwise_nameSet names).imp fun hlt heq => ?_
  subst heq
  exact String.lt_irrefl _ hlt

theorem nameSet_eq_iff : nameSet names = nameSet others ↔ ∀ x, x ∈ names ↔ x ∈ others := by
  constructor
  · intro h x
    rw [← mem_nameSet, h, mem_nameSet]
  · intro h
    have hperm : (nameSet names).Perm (nameSet others) := by
      refine (List.perm_ext_iff_of_nodup (nodup_nameSet names) (nodup_nameSet others)).mpr fun x =>
        ?_
      rw [mem_nameSet, mem_nameSet, h]
    exact hperm.eq_of_pairwise (fun a b _ _ hab hba => absurd hba (String.lt_asymm hab))
      (pairwise_nameSet names) (pairwise_nameSet others)

theorem one_lt_length_nameSet :
    1 < (nameSet names).length ↔ ∃ x ∈ names, ∃ y ∈ names, x ≠ y := by
  constructor
  · intro h
    have hne := List.pairwise_iff_getElem.mp (nodup_nameSet names) 0 1 (by omega) h (by omega)
    exact ⟨_, mem_nameSet.mp (List.getElem_mem _), _, mem_nameSet.mp (List.getElem_mem _), hne⟩
  · rintro ⟨x, hx, y, hy, hne⟩
    apply Nat.lt_of_not_le
    intro hle
    have hx := mem_nameSet.mpr hx
    have hy := mem_nameSet.mpr hy
    match hset : nameSet names with
    | [] => simp [hset] at hx
    | [z] =>
      rw [hset, List.mem_singleton] at hx hy
      exact hne (hx.trans hy.symm)
    | _ :: _ :: _ => simp [hset] at hle

end Fixtures.Text
