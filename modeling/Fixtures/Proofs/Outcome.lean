namespace Fixtures

variable {ε α β : Type}

theorem bind_eq_ok {x : Except ε α} {f : α → Except ε β} {b : β} :
    (x >>= f) = .ok b ↔ ∃ a, x = .ok a ∧ f a = .ok b := by
  cases x with
  | error e => simp [bind, Except.bind]
  | ok a => simp [bind, Except.bind]

theorem bind_eq_error {x : Except ε α} {f : α → Except ε β} {e : ε} :
    (x >>= f) = .error e ↔ x = .error e ∨ ∃ a, x = .ok a ∧ f a = .error e := by
  cases x with
  | error e => simp [bind, Except.bind]
  | ok a => simp [bind, Except.bind]

theorem toOption_eq_some {x : Except ε α} {a : α} : x.toOption = some a ↔ x = .ok a := by
  cases x <;> simp [Except.toOption]

def error? : Except ε α → Option ε
  | .error e => some e
  | .ok _ => none

theorem error?_eq_some {x : Except ε α} {e : ε} : error? x = some e ↔ x = .error e := by
  cases x <;> simp [error?]

theorem mapM_eq_ok {f : α → Except ε β} {as : List α} {bs : List β} :
    as.mapM f = .ok bs ↔ as.map f = bs.map .ok := by
  induction as generalizing bs with
  | nil => cases bs <;> simp [pure, Except.pure]
  | cons a as ih =>
    simp only [List.mapM_cons, bind_eq_ok, ih]
    constructor
    · rintro ⟨b, hb, rest, hrest, heq⟩
      cases heq
      simp [hb, hrest]
    · intro h
      cases bs with
      | nil => simp at h
      | cons b rest =>
        simp only [List.map_cons, List.cons.injEq] at h
        exact ⟨b, h.1, rest, h.2, rfl⟩

theorem exists_mapM_eq_ok {f : α → Except ε β} {as : List α} (h : ∀ a ∈ as, ∃ b, f a = .ok b) :
    ∃ bs, as.mapM f = .ok bs := by
  induction as with
  | nil => exact ⟨[], rfl⟩
  | cons a as ih =>
    obtain ⟨⟨b, hb⟩, has⟩ := List.forall_mem_cons.mp h
    obtain ⟨bs, hbs⟩ := ih has
    exact ⟨b :: bs, by rw [List.mapM_cons, hb, hbs]; rfl⟩

theorem exists_of_mapM_eq_error {f : α → Except ε β} {as : List α} {e : ε}
    (h : as.mapM f = .error e) : ∃ a ∈ as, f a = .error e := by
  induction as with
  | nil => cases h
  | cons a as ih =>
    rw [List.mapM_cons, bind_eq_error] at h
    rcases h with ha | ⟨b, -, h⟩
    · exact ⟨a, List.mem_cons_self, ha⟩
    · rcases bind_eq_error.mp h with has | ⟨_, -, hpure⟩
      · obtain ⟨c, hc, hce⟩ := ih has
        exact ⟨c, List.mem_cons_of_mem _ hc, hce⟩
      · cases hpure

theorem exists_of_mem_mapM {f : α → Except ε β} {as : List α} {bs : List β} {b : β}
    (h : as.mapM f = .ok bs) (hb : b ∈ bs) : ∃ a ∈ as, f a = .ok b := by
  have hmem : Except.ok b ∈ as.map f := by
    rw [mapM_eq_ok.mp h]
    exact List.mem_map_of_mem hb
  exact List.mem_map.mp hmem

theorem mem_of_mapM {f : α → Except ε β} {as : List α} {bs : List β} {a : α}
    (h : as.mapM f = .ok bs) (ha : a ∈ as) : ∃ b ∈ bs, f a = .ok b := by
  have hmem : f a ∈ bs.map Except.ok := by
    rw [← mapM_eq_ok.mp h]
    exact List.mem_map_of_mem ha
  obtain ⟨b, hb, heq⟩ := List.mem_map.mp hmem
  exact ⟨b, hb, heq.symm⟩

/-- Computations in another order succeed if they do, with their results in that order. -/
theorem perm_of_mapM {f : α → Except ε β} {as as' : List α} {bs : List β} (h : as.mapM f = .ok bs)
    (hperm : as.Perm as') : ∃ bs', as'.mapM f = .ok bs' ∧ bs.Perm bs' := by
  have hall : ∀ a ∈ as', ∃ b, f a = .ok b := fun a ha =>
    (mem_of_mapM h (hperm.mem_iff.mpr ha)).imp fun b hb => hb.2
  obtain ⟨bs', h'⟩ := exists_mapM_eq_ok hall
  refine ⟨bs', h', ?_⟩
  have hresults := (hperm.map f).filterMap Except.toOption
  rw [mapM_eq_ok.mp h, mapM_eq_ok.mp h', List.filterMap_map, List.filterMap_map] at hresults
  simpa [Function.comp_def, Except.toOption] using hresults

theorem length_of_mapM {f : α → Except ε β} {as : List α} {bs : List β}
    (h : as.mapM f = .ok bs) : bs.length = as.length := by
  have hlength := congrArg List.length (mapM_eq_ok.mp h)
  simpa using hlength.symm

theorem getElem?_of_mapM {f : α → Except ε β} {as : List α} {bs : List β} {i : Nat} {b : β}
    (h : as.mapM f = .ok bs) (hb : bs[i]? = some b) : ∃ a, as[i]? = some a ∧ f a = .ok b := by
  have hi : (as.map f)[i]? = (bs.map Except.ok)[i]? := by rw [mapM_eq_ok.mp h]
  simpa [hb] using hi

/-- What results have in common with what they come from, they have in the same order. -/
theorem map_of_mapM {γ : Type} {f : α → Except ε β} {as : List α} {bs : List β} {p : α → γ}
    {q : β → γ} (h : as.mapM f = .ok bs) (hpq : ∀ a b, f a = .ok b → q b = p a) :
    bs.map q = as.map p := by
  induction as generalizing bs with
  | nil =>
    cases h
    rfl
  | cons a as ih =>
    simp only [List.mapM_cons, bind_eq_ok] at h
    obtain ⟨b, hb, rest, hrest, heq⟩ := h
    cases heq
    rw [List.map_cons, List.map_cons, hpq a b hb, ih hrest]

theorem mapM_eq_some {f : α → Option β} {as : List α} {bs : List β} :
    as.mapM f = some bs ↔ as.map f = bs.map some := by
  induction as generalizing bs with
  | nil => cases bs <;> simp
  | cons a as ih =>
    rw [List.mapM_cons, Option.bind_eq_bind, Option.bind_eq_some_iff]
    simp only [Option.bind_eq_bind, Option.bind_eq_some_iff, ih]
    constructor
    · rintro ⟨b, hb, rest, hrest, heq⟩
      cases heq
      simp [hb, hrest]
    · intro h
      cases bs with
      | nil => simp at h
      | cons b rest =>
        simp only [List.map_cons, List.cons.injEq] at h
        exact ⟨b, h.1, rest, h.2, rfl⟩

theorem mapM_map {γ : Type} {f : α → Option β} {g : β → γ} {as : List α} :
    (as.mapM fun a => (f a).map g) = (as.mapM f).map (List.map g) := by
  induction as with
  | nil => rfl
  | cons a as ih =>
    rw [List.mapM_cons, List.mapM_cons, ih]
    cases f a with
    | none => rfl
    | some b => cases as.mapM f <;> rfl

theorem exists_of_mapM_eq_some {f : α → Option β} {as : List α} {bs : List β} {b : β}
    (h : as.mapM f = some bs) (hb : b ∈ bs) : ∃ a ∈ as, f a = some b := by
  have hmem : some b ∈ as.map f := mapM_eq_some.mp h ▸ List.mem_map_of_mem hb
  exact List.mem_map.mp hmem

theorem isSome_mapM {f : α → Option β} {as : List α} :
    (as.mapM f).isSome = true ↔ ∀ a ∈ as, (f a).isSome = true := by
  induction as with
  | nil => simp
  | cons a as ih =>
    rw [List.mapM_cons, List.forall_mem_cons, ← ih]
    cases f a with
    | none => simp
    | some b => cases as.mapM f <;> simp

end Fixtures
