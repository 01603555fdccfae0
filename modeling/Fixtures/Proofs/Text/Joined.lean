import Fixtures.Text.Ascii

namespace Fixtures.Text

variable {c : Char} {xs ys : List (List Char)}

theorem eq_or_exists_of_mem_intercalate {d : Char} (h : d ∈ [c].intercalate xs) :
    d = c ∨ ∃ x ∈ xs, d ∈ x := by
  induction xs with
  | nil => simp at h
  | cons x xs ih =>
    cases xs with
    | nil => exact .inr ⟨x, List.mem_cons_self, by simpa using h⟩
    | cons y ys =>
      rw [List.intercalate_cons_cons, List.mem_append, List.mem_append] at h
      rcases h with (hx | hc) | hrest
      · exact .inr ⟨x, List.mem_cons_self, hx⟩
      · exact .inl (List.mem_singleton.mp hc)
      · rcases ih hrest with hc | ⟨z, hz, hd⟩
        · exact .inl hc
        · exact .inr ⟨z, List.mem_cons_of_mem _ hz, hd⟩

def AbsentFrom (c : Char) (p : List Char × List Char) : Prop :=
  c ∉ p.1 ∧ c ∉ p.2

theorem splitOn_intercalate (h : xs ≠ []) :
    ([c].intercalate xs).splitOn c = xs.flatMap (List.splitOn c) := by
  induction xs with
  | nil => exact absurd rfl h
  | cons x xs ih =>
    cases xs with
    | nil => simp
    | cons y ys =>
      have hjoined : [c].intercalate (x :: y :: ys) = x ++ c :: [c].intercalate (y :: ys) := by
        simp
      rw [hjoined, List.splitOn_append_cons_self, ih (List.cons_ne_nil y ys), ← List.flatMap_cons]

theorem eq_of_splitOn_eq {x y : List Char} (h : x.splitOn c = y.splitOn c) : x = y := by
  calc x = [c].intercalate (x.splitOn c) := (List.intercalate_splitOn c).symm
    _ = [c].intercalate (y.splitOn c) := by rw [h]
    _ = y := List.intercalate_splitOn c

theorem flatMap_splitOn (h : ∀ x ∈ xs, c ∉ x) : xs.flatMap (List.splitOn c) = xs := by
  induction xs with
  | nil => rfl
  | cons x xs ih =>
    obtain ⟨hx, hxs⟩ := List.forall_mem_cons.mp h
    rw [List.flatMap_cons, List.splitOn_eq_singleton hx, ih hxs, List.singleton_append]

theorem notMem_of_absentFrom (hlength : xs.length = ys.length)
    (h : ∀ p ∈ xs.zip ys, AbsentFrom c p) : (∀ x ∈ xs, c ∉ x) ∧ ∀ y ∈ ys, c ∉ y := by
  constructor
  · intro x hx
    rw [← List.map_fst_zip (Nat.le_of_eq hlength)] at hx
    obtain ⟨p, hp, rfl⟩ := List.mem_map.mp hx
    exact (h p hp).1
  · intro y hy
    rw [← List.map_snd_zip (Nat.le_of_eq hlength.symm)] at hy
    obtain ⟨p, hp, rfl⟩ := List.mem_map.mp hy
    exact (h p hp).2

/-- Texts that split alike at a separator are equal. A text without one is split into itself alone,
and what comes before or after all such texts is the text that is left. -/
theorem eq_of_flatMap_splitOn_eq (hlength : xs.length = ys.length)
    (hapart : (xs.zip ys).Pairwise fun p q => AbsentFrom c p ∨ AbsentFrom c q)
    (h : xs.flatMap (List.splitOn c) = ys.flatMap (List.splitOn c)) : xs = ys := by
  induction xs generalizing ys with
  | nil => exact (List.length_eq_zero_iff.mp hlength.symm).symm
  | cons x xs ih =>
    cases ys with
    | nil => simp at hlength
    | cons y ys =>
      have hrest : xs.length = ys.length := by simpa using hlength
      rw [List.zip_cons_cons, List.pairwise_cons] at hapart
      rw [List.flatMap_cons, List.flatMap_cons] at h
      by_cases hhead : AbsentFrom c (x, y)
      · rw [List.splitOn_eq_singleton hhead.1, List.splitOn_eq_singleton hhead.2,
          List.singleton_append, List.singleton_append, List.cons.injEq] at h
        rw [ih hrest hapart.2 h.2]
        exact congrArg (· :: ys) h.1
      · have htail := notMem_of_absentFrom hrest fun p hp => (hapart.1 p hp).resolve_left hhead
        rw [flatMap_splitOn htail.1, flatMap_splitOn htail.2] at h
        obtain ⟨hx, hxs⟩ := List.append_inj' h hrest
        rw [eq_of_splitOn_eq hx, hxs]

theorem eq_of_intercalate_eq (hlength : xs.length = ys.length)
    (hapart : (xs.zip ys).Pairwise fun p q => AbsentFrom c p ∨ AbsentFrom c q)
    (h : [c].intercalate xs = [c].intercalate ys) : xs = ys := by
  by_cases hxs : xs = []
  · subst hxs
    exact (List.length_eq_zero_iff.mp hlength.symm).symm
  · have hys : ys ≠ [] := by
      rintro rfl
      exact hxs (List.length_eq_zero_iff.mp hlength)
    refine eq_of_flatMap_splitOn_eq hlength hapart ?_
    rw [← splitOn_intercalate hxs, h, splitOn_intercalate hys]

/-- Texts that are not empty, and none of which has the separator, are told from all others like
them. -/
theorem eq_of_intercalate_eq_of_ne_nil (hx : ∀ x ∈ xs, c ∉ x ∧ x ≠ [])
    (hy : ∀ y ∈ ys, c ∉ y ∧ y ≠ []) (h : [c].intercalate xs = [c].intercalate ys) : xs = ys := by
  have hsplit : ∀ zs : List (List Char), (∀ z ∈ zs, c ∉ z ∧ z ≠ []) →
      ([c].intercalate zs).splitOn c = if zs = [] then [[]] else zs := by
    intro zs hzs
    split
    · next hnil => simp [hnil]
    · next hne => rw [splitOn_intercalate hne, flatMap_splitOn fun z hz => (hzs z hz).1]
  have heq := (hsplit xs hx).symm.trans (h ▸ hsplit ys hy)
  split at heq <;> split at heq
  · next hxs hys => rw [hxs, hys]
  · exact absurd rfl (hy [] (heq ▸ List.mem_singleton_self _)).2
  · exact absurd rfl (hx [] (heq ▸ List.mem_singleton_self _)).2
  · exact heq

end Fixtures.Text
