namespace Fixtures

variable {α β : Type}

theorem exists_getElem?_of_length {as : List α} {bs : List β} {i : Nat} {a : α}
    (hlength : bs.length = as.length) (ha : as[i]? = some a) : ∃ b, bs[i]? = some b := by
  have hi := (List.getElem?_eq_some_iff.mp ha).1
  exact ⟨_, List.getElem?_eq_getElem (by omega)⟩

theorem of_append_of_concat {p : List α → Prop} (h : ∀ as a, p (as ++ [a]) → p as)
    {as bs : List α} (hall : p (as ++ bs)) : p as := by
  induction bs generalizing as with
  | nil => simpa using hall
  | cons b bs ih =>
    have hone : p (as ++ [b]) := ih (by simpa using hall)
    exact h as b hone

/-- What an element has as soon as all elements before it have it, all elements have. -/
theorem forall_mem_of_before {p : α → Prop} {as : List α}
    (step : ∀ before a after, as = before ++ a :: after → (∀ b ∈ before, p b) → p a) :
    ∀ a ∈ as, p a := by
  have key : ∀ after before, as = before ++ after → (∀ b ∈ before, p b) → ∀ a ∈ after, p a := by
    intro after
    induction after with
    | nil => simp
    | cons a after ih =>
      intro before heq hbefore
      have ha := step before a after heq hbefore
      refine List.forall_mem_cons.mpr ⟨ha, ih (before ++ [a]) (by simpa using heq) fun b hb => ?_⟩
      rcases List.mem_append.mp hb with hb | hb
      · exact hbefore b hb
      · rw [List.mem_singleton.mp hb]
        exact ha
  exact key as [] rfl (by simp)

theorem exists_choices {p : α → β → Prop} {as : List α} (h : ∀ a ∈ as, ∃ b, p a b) :
    ∃ bs : List β, bs.length = as.length ∧
      ∀ (j : Nat) a b, as[j]? = some a → bs[j]? = some b → p a b := by
  induction as with
  | nil => exact ⟨[], rfl, by simp⟩
  | cons a as ih =>
    obtain ⟨⟨b, hb⟩, hrest⟩ := List.forall_mem_cons.mp h
    obtain ⟨bs, hlength, hall⟩ := ih hrest
    refine ⟨b :: bs, by simp [hlength], fun j a' b' ha hb' => ?_⟩
    cases j with
    | zero =>
      cases ha
      cases hb'
      exact hb
    | succ j => exact hall j a' b' ha hb'

theorem exists_last {p : α → Prop} {as : List α} (h : ∃ a ∈ as, p a) :
    ∃ (j : Nat) (a : α), as[j]? = some a ∧ p a ∧
      ∀ (j' : Nat) b, j < j' → as[j']? = some b → ¬ p b := by
  induction as with
  | nil => simp at h
  | cons a as ih =>
    by_cases hlater : ∃ b ∈ as, p b
    · obtain ⟨j, b, hj, hb, hlast⟩ := ih hlater
      refine ⟨j + 1, b, hj, hb, fun j' c hj' hc => ?_⟩
      cases j' with
      | zero => omega
      | succ j' => exact hlast j' c (by omega) hc
    · obtain ⟨b, hb, hpb⟩ := h
      rcases List.mem_cons.mp hb with rfl | hb
      · refine ⟨0, b, rfl, hpb, fun j' c hj' hc hpc => ?_⟩
        cases j' with
        | zero => omega
        | succ j' => exact hlater ⟨c, List.mem_of_getElem? hc, hpc⟩
      · exact absurd ⟨b, hb, hpb⟩ hlater

variable {f : α → Option β} {as : List α} {bs : List β}

theorem map_some_filterMap (h : ∀ a ∈ as, ∃ b, f a = some b) :
    (as.filterMap f).map some = as.map f := by
  induction as with
  | nil => rfl
  | cons a as ih =>
    obtain ⟨⟨b, hb⟩, hrest⟩ := List.forall_mem_cons.mp h
    rw [List.filterMap_cons_some hb, List.map_cons, List.map_cons, ih hrest, hb]

theorem map_of_map_eq {γ : Type} {p : α → γ} {q : β → γ} (h : as.map f = bs.map some)
    (hpq : ∀ a ∈ as, ∀ b, f a = some b → p a = q b) : as.map p = bs.map q := by
  induction as generalizing bs with
  | nil => cases bs <;> simp at h ⊢
  | cons a as ih =>
    cases bs with
    | nil => simp at h
    | cons b bs =>
      rw [List.map_cons, List.map_cons, List.cons.injEq] at h
      obtain ⟨ha, hrest⟩ := List.forall_mem_cons.mp hpq
      rw [List.map_cons, List.map_cons, ha b h.1, ih h.2 hrest]

theorem find?_of_map_eq {p : α → Bool} {q : β → Bool} (h : as.map f = bs.map some)
    (hpq : ∀ a b, f a = some b → p a = q b) : (as.find? p).map f = (bs.find? q).map some := by
  induction as generalizing bs with
  | nil => cases bs <;> simp at h ⊢
  | cons a as ih =>
    cases bs with
    | nil => simp at h
    | cons b bs =>
      rw [List.map_cons, List.map_cons, List.cons.injEq] at h
      rw [List.find?_cons, List.find?_cons, hpq a b h.1]
      cases q b with
      | true => simp [h.1]
      | false => exact ih h.2

theorem mem_zip_of_mem_zip_zip {γ : Type} {as : List α} {bs : List β} {cs : List γ}
    {entry : α × β × γ} (h : entry ∈ as.zip (bs.zip cs)) : (entry.1, entry.2.1) ∈ as.zip bs := by
  obtain ⟨i, hi⟩ := List.getElem?_of_mem h
  obtain ⟨ha, hrest⟩ := List.getElem?_zip_eq_some.mp hi
  exact List.mem_of_getElem? (List.getElem?_zip_eq_some.mpr
    ⟨ha, (List.getElem?_zip_eq_some.mp hrest).1⟩)

theorem find?_of_mem_of_nodup [DecidableEq β] {name : α → β} {a : α}
    (h : (as.map name).Nodup) (ha : a ∈ as) : as.find? (fun b => name b = name a) = some a := by
  induction as with
  | nil => cases ha
  | cons b as ih =>
    rw [List.map_cons, List.nodup_cons] at h
    rcases List.mem_cons.mp ha with rfl | ha
    · simp
    · have hne : name b ≠ name a := fun heq => h.1 (heq ▸ List.mem_map_of_mem ha)
      rw [List.find?_cons_of_neg (by simpa using hne), ih h.2 ha]

end Fixtures
