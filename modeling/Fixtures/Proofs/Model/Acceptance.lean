import Fixtures.Proofs.Model.Keys

namespace Fixtures.Analysis

variable {resolve : Resolution} {known other : SymbolTable} {s s' : Schema} {declared : Table}
  {t t' : Model.Table}

namespace IsAccepted

theorem primaryKey (h : IsAccepted resolve known s declared t) :
    t.primaryKey = merged (primaries declared) := by
  rw [h.table]
  exact (collects_reviewKeys h.keys).primaryKey

theorem uniqueKeys (h : IsAccepted resolve known s declared t) :
    t.uniqueKeys = declared.allConstraints.filterMap declaredUnique? := by
  rw [h.table]
  exact (collects_reviewKeys h.keys).uniqueKeys

theorem foreignKeys (h : IsAccepted resolve known s declared t) :
    t.foreignKeys = declared.allConstraints.filterMap declaredForeign? := by
  rw [h.table]
  exact foreignKeys_of_reviewKeys h.keys

theorem unique (h : IsAccepted resolve known s declared t)
    (h' : IsAccepted resolve other s' declared t') : t = t' := by
  have hprimary := h.primaryKey.trans h'.primaryKey.symm
  have hunique := h.uniqueKeys.trans h'.uniqueKeys.symm
  have hforeign := h.foreignKeys.trans h'.foreignKeys.symm
  rw [h.table, h'.table] at hprimary hunique hforeign ⊢
  simp only at hprimary hunique hforeign
  rw [hprimary, hunique, hforeign]

end IsAccepted

theorem exists_accepted {m : Model} (h : Model.ofSchema s = .ok m)
    (hdeclared : declared ∈ s.tables) :
    ∃ t ∈ m.tables, IsAccepted s.resolution (symbols s).1 s declared t := by
  have haccepts := Model.accepts_of_ofSchema h
  have hmem : (reviewTable s.resolution (symbols s).1 s declared).1 ∈ m.tables.map some := by
    rw [← haccepts.tables]
    exact List.mem_map_of_mem hdeclared
  obtain ⟨t, ht, hreview⟩ := List.mem_map.mp hmem
  have hnodup := (nodup_of_symbols haccepts.symbols).2 declared hdeclared
  exact ⟨t, ht, isAccepted_of_reviewTable hnodup hreview.symm⟩

theorem exists_declared {m : Model} (h : Model.ofSchema s = .ok m) (ht : t ∈ m.tables) :
    ∃ declared ∈ s.tables, IsAccepted s.resolution (symbols s).1 s declared t := by
  have haccepts := Model.accepts_of_ofSchema h
  have hmem : some t ∈ s.tables.map fun declared =>
      (reviewTable s.resolution (symbols s).1 s declared).1 := by
    rw [haccepts.tables]
    exact List.mem_map_of_mem ht
  obtain ⟨declared, hdeclared, hreview⟩ := List.mem_map.mp hmem
  have hnodup := (nodup_of_symbols haccepts.symbols).2 declared hdeclared
  exact ⟨declared, hdeclared, isAccepted_of_reviewTable hnodup hreview⟩

end Fixtures.Analysis
