import Fixtures.Schema.Dependency

namespace Fixtures.DependencyGraph

variable {references : List (String × List String)} {child parent name : String} {n p : Nat}

def declaredNames (references : List (String × List String)) : List String :=
  (references.map Prod.fst).eraseDups

/-- A table lists another one, or itself, that is declared. A name that is declared twice has the
references of both declarations. -/
def Refers (references : List (String × List String)) (child parent : String) : Prop :=
  parent ∈ references.map Prod.fst ∧ ∃ r ∈ references, r.1 = child ∧ parent ∈ r.2

theorem mem_declaredNames : name ∈ declaredNames references ↔ ∃ r ∈ references, r.1 = name := by
  rw [declaredNames, List.mem_eraseDups, List.mem_map]

theorem Refers.parent_mem (h : Refers references child parent) :
    parent ∈ declaredNames references := by
  rw [declaredNames, List.mem_eraseDups]
  exact h.1

theorem Refers.child_mem (h : Refers references child parent) :
    child ∈ declaredNames references := by
  obtain ⟨-, r, hr, rfl, -⟩ := h
  exact mem_declaredNames.mpr ⟨r, hr, rfl⟩

theorem foldl_addNew (names : List String) (references : List (String × List String)) :
    references.foldl (fun ts r => if r.1 ∈ ts then ts else ts ++ [r.1]) names =
      names ++ ((references.map Prod.fst).filter fun name => name ∉ names).eraseDups := by
  induction references generalizing names with
  | nil => simp
  | cons r references ih =>
    rw [List.foldl_cons, List.map_cons, ih]
    by_cases h : r.1 ∈ names
    · rw [if_pos h, List.filter_cons_of_neg (by simpa using h)]
    · have hfilter : (references.map Prod.fst).filter (fun name => name ∉ names ++ [r.1]) =
          ((references.map Prod.fst).filter fun name => name ∉ names).filter
            (fun b => !b == r.1) := by
        rw [List.filter_filter]
        refine List.filter_congr fun name _ => ?_
        by_cases hname : name = r.1 <;> simp [hname]
      rw [if_neg h, List.filter_cons_of_pos (by simpa using h), List.eraseDups_cons, hfilter]
      simp

theorem tables_ofReferences (references : List (String × List String)) :
    (ofReferences references).tables = declaredNames references := by
  have hall : (references.map Prod.fst).filter (fun name => name ∉ ([] : List String)) =
      references.map Prod.fst := List.filter_eq_self.mpr (by simp)
  rw [declaredNames, ← hall]
  exact foldl_addNew [] references

theorem nodup_foldl_addNew {names : List String} (h : names.Nodup) :
    (references.foldl (fun ts r => if r.1 ∈ ts then ts else ts ++ [r.1]) names).Nodup := by
  induction references generalizing names with
  | nil => exact h
  | cons r references ih =>
    rw [List.foldl_cons]
    split
    · exact ih h
    · next hnew =>
      refine ih (List.nodup_append.mpr ⟨h, by simp, fun x hx y hy => ?_⟩)
      rw [List.mem_singleton.mp hy]
      exact fun heq => hnew (heq ▸ hx)

theorem nodup_declaredNames (references : List (String × List String)) :
    (declaredNames references).Nodup := by
  rw [← tables_ofReferences]
  exact nodup_foldl_addNew List.nodup_nil

def position (references : List (String × List String)) (name : String) : Nat :=
  (declaredNames references).idxOf name

def positions (references : List (String × List String)) (names : List String) : List Nat :=
  names.map (position references)

def nodes (g : DependencyGraph) : List Nat :=
  List.range g.tables.length

theorem getElem?_position (h : name ∈ declaredNames references) :
    (declaredNames references)[position references name]? = some name := by
  have hlt := List.idxOf_lt_length_iff.mpr h
  rw [position, List.getElem?_eq_getElem hlt, List.getElem_idxOf]

theorem position_of_getElem? (h : (declaredNames references)[n]? = some name) :
    position references name = n := by
  obtain ⟨hn, rfl⟩ := List.getElem?_eq_some_iff.mp h
  have hmem := List.getElem_mem hn
  obtain ⟨hlt, hsame⟩ := List.getElem?_eq_some_iff.mp (getElem?_position hmem)
  exact (List.getElem_inj (nodup_declaredNames references)).mp hsame

theorem nameOf_eq (h : (declaredNames references)[n]? = some name) :
    (ofReferences references).nameOf n = name := by
  rw [nameOf, tables_ofReferences, List.getD_eq_getElem?_getD, h, Option.getD_some]

theorem exists_name (h : n ∈ (ofReferences references).nodes) :
    ∃ name, (declaredNames references)[n]? = some name := by
  rw [nodes, List.mem_range, tables_ofReferences] at h
  exact ⟨_, List.getElem?_eq_getElem h⟩

theorem mem_nodes_of_getElem? (h : (declaredNames references)[n]? = some name) :
    n ∈ (ofReferences references).nodes := by
  rw [nodes, List.mem_range, tables_ofReferences]
  exact (List.getElem?_eq_some_iff.mp h).1

theorem position_nameOf (h : n ∈ (ofReferences references).nodes) :
    position references ((ofReferences references).nameOf n) = n := by
  obtain ⟨name, hname⟩ := exists_name h
  rw [nameOf_eq hname, position_of_getElem? hname]

theorem nameOf_position (h : name ∈ declaredNames references) :
    (ofReferences references).nameOf (position references name) = name :=
  nameOf_eq (getElem?_position h)

theorem positions_names {ns : List Nat} (h : ∀ n ∈ ns, n ∈ (ofReferences references).nodes) :
    positions references ((ofReferences references).names ns) = ns := by
  rw [positions, names, List.map_map]
  refine (List.map_congr_left fun n hn => ?_).trans (List.map_id ns)
  exact position_nameOf (h n hn)

theorem names_positions {ns : List String} (h : ∀ name ∈ ns, name ∈ declaredNames references) :
    (ofReferences references).names (positions references ns) = ns := by
  rw [positions, names, List.map_map]
  refine (List.map_congr_left fun name hname => ?_).trans (List.map_id ns)
  exact nameOf_position (h name hname)

theorem names_nodes (references : List (String × List String)) :
    (ofReferences references).names (ofReferences references).nodes = declaredNames references := by
  refine List.ext_getElem? fun n => ?_
  rw [names, List.getElem?_map, nodes, tables_ofReferences]
  by_cases hn : n < (declaredNames references).length
  · have hname := List.getElem?_eq_getElem hn
    rw [List.getElem?_range hn, Option.map_some, nameOf_eq hname, hname]
  · rw [List.getElem?_eq_none (by simpa using hn), List.getElem?_eq_none (by simpa using hn),
      Option.map_none]

theorem mem_parentsIn {tables : List String} : p ∈ parentsIn tables references child ↔
    ∃ parent, tables[p]? = some parent ∧ ∃ r ∈ references, r.1 = child ∧ parent ∈ r.2 := by
  rw [parentsIn, List.mem_filter, List.mem_range]
  have htargets : ∀ parent, (references.flatMap fun r => if r.1 = child then r.2 else []).contains
      parent = true ↔ ∃ r ∈ references, r.1 = child ∧ parent ∈ r.2 := by
    intro parent
    rw [List.contains_iff_mem, List.mem_flatMap]
    refine exists_congr fun r => and_congr_right fun _ => ?_
    by_cases h : r.1 = child <;> simp [h]
  constructor
  · rintro ⟨hp, hany⟩
    have hparent := List.getElem?_eq_getElem hp
    rw [hparent, Option.any_some, htargets] at hany
    exact ⟨_, hparent, hany⟩
  · rintro ⟨parent, hparent, htarget⟩
    refine ⟨(List.getElem?_eq_some_iff.mp hparent).1, ?_⟩
    rw [hparent, Option.any_some, htargets]
    exact htarget

theorem parentsOf_eq_getD (references : List (String × List String)) (n : Nat) :
    (ofReferences references).parentsOf n = (((declaredNames references)[n]?).map
      (parentsIn (declaredNames references) references)).getD [] := by
  have hparents : (ofReferences references).parents =
      (declaredNames references).map (parentsIn (declaredNames references) references) := by
    rw [← tables_ofReferences]
    rfl
  rw [parentsOf, hparents, List.getD_eq_getElem?_getD, List.getElem?_map]

theorem nodup_parentsOf (references : List (String × List String)) (n : Nat) :
    ((ofReferences references).parentsOf n).Nodup := by
  rw [parentsOf_eq_getD]
  cases (declaredNames references)[n]? with
  | none => exact List.nodup_nil
  | some child => exact List.nodup_range.filter _

theorem mem_parentsOf : p ∈ (ofReferences references).parentsOf n ↔
    ∃ child parent, (declaredNames references)[n]? = some child ∧
      (declaredNames references)[p]? = some parent ∧ Refers references child parent := by
  rw [parentsOf_eq_getD]
  constructor
  · intro h
    cases hchild : (declaredNames references)[n]? with
    | none => simp [hchild] at h
    | some child =>
      rw [hchild, Option.map_some, Option.getD_some, mem_parentsIn] at h
      obtain ⟨parent, hparent, hlists⟩ := h
      have hmem := List.mem_of_getElem? hparent
      rw [declaredNames, List.mem_eraseDups] at hmem
      exact ⟨child, parent, rfl, hparent, hmem, hlists⟩
  · rintro ⟨child, parent, hchild, hparent, -, hlists⟩
    rw [hchild, Option.map_some, Option.getD_some, mem_parentsIn]
    exact ⟨parent, hparent, hlists⟩

theorem refers_nameOf (h : p ∈ (ofReferences references).parentsOf n) :
    Refers references ((ofReferences references).nameOf n)
      ((ofReferences references).nameOf p) := by
  obtain ⟨child, parent, hchild, hparent, hrefers⟩ := mem_parentsOf.mp h
  rwa [nameOf_eq hchild, nameOf_eq hparent]

theorem position_mem_parentsOf (h : Refers references child parent) :
    position references parent ∈ (ofReferences references).parentsOf (position references child) :=
  mem_parentsOf.mpr
    ⟨child, parent, getElem?_position h.child_mem, getElem?_position h.parent_mem, h⟩

end Fixtures.DependencyGraph
