import Fixtures.Json.Decode

namespace Fixtures.Json

section Members

variable {α β : Type} {key other : String} {value : α} {ms sorted : List (String × α)}

def InOrder (ms : List (String × α)) : Prop :=
  ms.Pairwise fun m n => m.1 < n.1

instance (ms : List (String × α)) : Decidable (InOrder ms) :=
  inferInstanceAs (Decidable (ms.Pairwise fun m n => m.1 < n.1))

@[simp]
theorem lookup?_nil : lookup? key ([] : List (String × α)) = none := rfl

@[simp]
theorem lookup?_cons (m : String × α) :
    lookup? key (m :: ms) = if m.1 = key then some m.2 else lookup? key ms := by
  unfold lookup?
  rw [List.findSome?_cons]
  split <;> simp_all

theorem lookup?_append {ns : List (String × α)} :
    lookup? key (ms ++ ns) = (lookup? key ms).or (lookup? key ns) := by
  unfold lookup?
  rw [List.findSome?_append]

theorem mem_of_lookup? (h : lookup? key ms = some value) : (key, value) ∈ ms := by
  induction ms with
  | nil => cases h
  | cons m ms ih =>
    rw [lookup?_cons] at h
    split at h
    · next hkey =>
      cases h
      rw [← hkey]
      exact List.mem_cons_self
    · exact List.mem_cons_of_mem _ (ih h)

theorem lookup?_eq_none : lookup? key ms = none ↔ key ∉ ms.map Prod.fst := by
  induction ms with
  | nil => simp
  | cons m ms ih =>
    rw [lookup?_cons, List.map_cons, List.mem_cons]
    by_cases hkey : m.1 = key
    · simp [hkey]
    · rw [if_neg hkey, ih, not_or]
      exact (and_iff_right fun heq => hkey heq.symm).symm

theorem lookup?_map (f : α → β) :
    lookup? key (ms.map fun m => (m.1, f m.2)) = (lookup? key ms).map f := by
  induction ms with
  | nil => rfl
  | cons m ms ih => by_cases hkey : m.1 = key <;> simp [hkey, ih]

theorem lookup?_insertMember :
    lookup? key (insertMember other value ms) = if other = key then some value
      else lookup? key ms := by
  induction ms with
  | nil => simp [insertMember]
  | cons m ms ih =>
    unfold insertMember
    split
    · simp
    · split
      · next hsame => by_cases hkey : other = key <;> simp [← hsame, hkey]
      · next hne =>
        rw [lookup?_cons, lookup?_cons, ih]
        by_cases hkey : m.1 = key
        · have hother : other ≠ key := fun heq => hne (heq.trans hkey.symm)
          simp [hkey, hother]
        · simp [hkey]

theorem lookup?_sortMembers (h : (ms.map Prod.fst).Nodup) :
    lookup? key (sortMembers ms) = lookup? key ms := by
  have hfold : ∀ sorted : List (String × α),
      lookup? key (ms.foldl (fun sorted m => insertMember m.1 m.2 sorted) sorted) =
        (lookup? key ms).or (lookup? key sorted) := by
    induction ms with
    | nil => simp
    | cons m ms ih =>
      intro sorted
      obtain ⟨hm, hms⟩ := List.nodup_cons.mp h
      rw [List.foldl_cons, ih hms, lookup?_insertMember, lookup?_cons]
      by_cases hkey : m.1 = key
      · have hnone : lookup? key ms = none := lookup?_eq_none.mpr (hkey ▸ hm)
        simp [hkey, hnone]
      · simp [hkey]
  rw [sortMembers, hfold, lookup?_nil, Option.or_none]

theorem mem_insertMember {m : String × α} (h : m ∈ insertMember key value ms) :
    m = (key, value) ∨ m ∈ ms := by
  induction ms with
  | nil => exact .inl (List.mem_singleton.mp h)
  | cons n ms ih =>
    unfold insertMember at h
    split at h
    · exact List.mem_cons.mp h
    · split at h
      · rcases List.mem_cons.mp h with h | h
        · exact .inl h
        · exact .inr (List.mem_cons_of_mem _ h)
      · rcases List.mem_cons.mp h with h | h
        · exact .inr (h ▸ List.mem_cons_self)
        · exact (ih h).imp_right (List.mem_cons_of_mem _)

theorem inOrder_insertMember (h : InOrder ms) : InOrder (insertMember key value ms) := by
  induction ms with
  | nil => exact List.pairwise_singleton ..
  | cons m ms ih =>
    obtain ⟨hm, hms⟩ := List.pairwise_cons.mp h
    unfold insertMember
    split
    · next hlt =>
      refine List.pairwise_cons.mpr ⟨List.forall_mem_cons.mpr ⟨hlt, fun n hn => ?_⟩, h⟩
      exact String.lt_trans hlt (hm n hn)
    · next hnot =>
      split
      · next hsame => exact List.pairwise_cons.mpr ⟨hsame ▸ hm, hms⟩
      · next hne =>
        refine List.pairwise_cons.mpr ⟨fun n hn => ?_, ih hms⟩
        rcases mem_insertMember hn with rfl | hn
        · apply Classical.byContradiction
          intro hle
          exact hne (String.le_antisymm (String.not_lt.mp hle) (String.not_lt.mp hnot))
        · exact hm n hn

theorem insertMember_of_lt (h : ∀ m ∈ ms, m.1 < key) :
    insertMember key value ms = ms ++ [(key, value)] := by
  induction ms with
  | nil => rfl
  | cons m ms ih =>
    obtain ⟨hm, hms⟩ := List.forall_mem_cons.mp h
    have hne : key ≠ m.1 := fun heq => String.lt_irrefl _ (heq ▸ hm)
    unfold insertMember
    rw [if_neg (String.lt_asymm hm), if_neg hne, ih hms]
    rfl

theorem sortMembers_of_inOrder (h : InOrder ms) : sortMembers ms = ms := by
  have hfold : ∀ done : List (String × α), (∀ d ∈ done, ∀ m ∈ ms, d.1 < m.1) →
      ms.foldl (fun sorted m => insertMember m.1 m.2 sorted) done = done ++ ms := by
    induction ms with
    | nil => simp
    | cons m ms ih =>
      intro done hdone
      obtain ⟨hm, hms⟩ := List.pairwise_cons.mp h
      rw [List.foldl_cons, insertMember_of_lt fun d hd => hdone d hd m List.mem_cons_self, ih hms]
      · simp
      · intro d hd n hn
        rcases List.mem_append.mp hd with hd | hd
        · exact hdone d hd n (List.mem_cons_of_mem _ hn)
        · rw [List.mem_singleton.mp hd]
          exact hm n hn
  exact hfold [] (by simp)

end Members

mutual

/-- Whether a value is as it is read: with whole numbers of at most 64 bits, finite floats, and the
members of all objects in order. -/
def isValue : Json → Bool
  | .null | .bool _ | .string _ => true
  | .int n => -9223372036854775808 ≤ n && n < twoTo 64
  | .float x => x.isFinite
  | .array items => areValues items
  | .object ms => decide (InOrder ms) && areMemberValues ms

def areValues : List Json → Bool
  | [] => true
  | j :: js => j.isValue && areValues js

def areMemberValues : List (String × Json) → Bool
  | [] => true
  | (_, j) :: ms => j.isValue && areMemberValues ms

end

mutual

def inOrder : Json → Json
  | .array items => .array (itemsInOrder items)
  | .object ms => ofMembers (membersInOrder ms)
  | .null => .null
  | .bool b => .bool b
  | .int n => .int n
  | .float x => .float x
  | .string s => .string s

def itemsInOrder : List Json → List Json
  | [] => []
  | j :: js => j.inOrder :: itemsInOrder js

def membersInOrder : List (String × Json) → List (String × Json)
  | [] => []
  | (key, j) :: ms => (key, j.inOrder) :: membersInOrder ms

end

variable {j : Json} {items : List Json} {ms : List (String × Json)} {key : String}

theorem areValues_iff : areValues items = true ↔ ∀ j ∈ items, j.isValue = true := by
  induction items with
  | nil => simp [areValues]
  | cons j items ih => simp [areValues, ih]

theorem areMemberValues_iff : areMemberValues ms = true ↔ ∀ m ∈ ms, m.2.isValue = true := by
  induction ms with
  | nil => simp [areMemberValues]
  | cons m ms ih => simp [areMemberValues, ih]

theorem isValue_array : (array items).isValue = true ↔ ∀ j ∈ items, j.isValue = true := by
  rw [isValue, areValues_iff]

theorem isValue_object :
    (object ms).isValue = true ↔ InOrder ms ∧ ∀ m ∈ ms, m.2.isValue = true := by
  rw [isValue, Bool.and_eq_true, decide_eq_true_eq, areMemberValues_iff]

theorem itemsInOrder_eq_map : itemsInOrder items = items.map inOrder := by
  induction items with
  | nil => rfl
  | cons j items ih => rw [itemsInOrder, ih, List.map_cons]

theorem membersInOrder_eq_map : membersInOrder ms = ms.map fun m => (m.1, m.2.inOrder) := by
  induction ms with
  | nil => rfl
  | cons m ms ih => rw [membersInOrder, ih, List.map_cons]

mutual

theorem inOrder_of_isValue : ∀ j : Json, j.isValue = true → j.inOrder = j
  | .null, _ | .bool _, _ | .int _, _ | .float _, _ | .string _, _ => rfl
  | .array items, h => congrArg array (itemsInOrder_of_areValues items h)
  | .object ms, h => by
    obtain ⟨hkeys, hvalues⟩ := Bool.and_eq_true_iff.mp h
    rw [inOrder, membersInOrder_of_areValues ms hvalues, ofMembers,
      sortMembers_of_inOrder (of_decide_eq_true hkeys)]

theorem itemsInOrder_of_areValues : ∀ items : List Json,
    areValues items = true → itemsInOrder items = items
  | [], _ => rfl
  | j :: items, h => by
    obtain ⟨hj, hitems⟩ := Bool.and_eq_true_iff.mp h
    rw [itemsInOrder, inOrder_of_isValue j hj, itemsInOrder_of_areValues items hitems]

theorem membersInOrder_of_areValues : ∀ ms : List (String × Json),
    areMemberValues ms = true → membersInOrder ms = ms
  | [], _ => rfl
  | (key, j) :: ms, h => by
    obtain ⟨hj, hms⟩ := Bool.and_eq_true_iff.mp h
    rw [membersInOrder, inOrder_of_isValue j hj, membersInOrder_of_areValues ms hms]

end

theorem inOrder_ofList {α : Type} (render : α → Json) (as : List α) :
    (ofList render as).inOrder = .array (as.map fun a => (render a).inOrder) := by
  rw [ofList, inOrder, itemsInOrder_eq_map, List.map_map]
  rfl

theorem exists_inOrder_object (h : (ms.map Prod.fst).Nodup) : ∃ ns,
    (object ms).inOrder = .object ns ∧ ∀ key, lookup? key ns = (lookup? key ms).map inOrder := by
  refine ⟨_, rfl, fun key => ?_⟩
  rw [membersInOrder_eq_map, lookup?_sortMembers (by simpa [Function.comp_def] using h),
    lookup?_map]

theorem inOrder_object_of_inOrder {α : Type} {as : List (String × α)} (render : α → Json)
    (h : InOrder as) : (object (as.map fun a => (a.1, render a.2))).inOrder =
      .object (as.map fun a => (a.1, (render a.2).inOrder)) := by
  rw [inOrder, membersInOrder_eq_map, List.map_map, ofMembers, sortMembers_of_inOrder]
  · rfl
  · exact List.pairwise_map.mpr h

end Fixtures.Json
