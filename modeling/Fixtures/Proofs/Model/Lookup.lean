import Fixtures.Proofs.Model.Review
import Fixtures.Proofs.Positions

namespace Fixtures

namespace Analysis.IsTableOf

variable {resolve : Resolution} {s : Schema} {declared : Table} {t : Model.Table} {i : Nat}
  {field : String} {g : Model.Field}

theorem getElem?_fields (h : IsTableOf resolve s declared t) (hg : t.fields[i]? = some g) :
    ∃ f, declared.fields[i]? = some f ∧ IsReviewed resolve f g := by
  obtain ⟨review, hmap, hreview⟩ := h.fields
  have hi : (declared.fields.map review)[i]? = (t.fields.map some)[i]? := by rw [hmap]
  simp only [List.getElem?_map, hg, Option.map_some, Option.map_eq_some_iff] at hi
  obtain ⟨f, hf, hfg⟩ := hi
  exact ⟨f, hf, hreview f g hfg⟩

theorem wellTyped (h : IsTableOf resolve s declared t) (hg : g ∈ t.fields) : g.WellTyped := by
  obtain ⟨i, hi⟩ := List.getElem?_of_mem hg
  obtain ⟨f, -, hf⟩ := h.getElem?_fields hi
  exact hf.wellTyped

theorem fieldNames (h : IsTableOf resolve s declared t) :
    t.fieldNames = declared.fields.map Field.name := by
  obtain ⟨review, hmap, hreview⟩ := h.fields
  exact (map_of_map_eq hmap fun f _ g hfg => (hreview f g hfg).name.symm).symm

theorem nodup_fieldNames (h : IsTableOf resolve s declared t) : t.fieldNames.Nodup := by
  rw [h.fieldNames]
  exact h.nodup

theorem map_field? (h : IsTableOf resolve s declared t) (field : String) :
    ∃ review : Field → Option Model.Field,
      (declared.field? field).map review = (t.field? field).map some ∧
        ∀ f g, review f = some g → IsReviewed resolve f g := by
  obtain ⟨review, hmap, hreview⟩ := h.fields
  refine ⟨review, find?_of_map_eq hmap fun f g hfg => ?_, hreview⟩
  rw [(hreview f g hfg).name]

theorem field?_of_model (h : IsTableOf resolve s declared t) (hg : t.field? field = some g) :
    ∃ f, declared.field? field = some f ∧ IsReviewed resolve f g := by
  obtain ⟨review, hmap, hreview⟩ := h.map_field? field
  rw [hg, Option.map_some, Option.map_eq_some_iff] at hmap
  obtain ⟨f, hf, hfg⟩ := hmap
  exact ⟨f, hf, hreview f g hfg⟩

theorem field?_of_declared {f : Field} (h : IsTableOf resolve s declared t)
    (hf : declared.field? field = some f) :
    ∃ g, t.field? field = some g ∧ IsReviewed resolve f g := by
  obtain ⟨review, hmap, hreview⟩ := h.map_field? field
  rw [hf, Option.map_some, eq_comm, Option.map_eq_some_iff] at hmap
  obtain ⟨g, hg, hfg⟩ := hmap
  exact ⟨g, hg, hreview f g hfg.symm⟩

end Analysis.IsTableOf

namespace Model

open Analysis

/-- A foreign key of a table, whose fields are paired with fields of the target table of the same
types. -/
structure Table.Refers (t target : Table) (k : ForeignKey) : Prop where
  nodup : k.fields.Nodup
  length : k.targetFields.length = k.fields.length
  pairs : ∀ (l : Nat) x y, k.fields[l]? = some x → k.targetFields[l]? = some y →
    ∃ g, target.field? y = some g ∧ ∀ f, t.field? x = some f → f.terminal = g.terminal

variable {s : Schema} {m : Model} {t target : Table} {name : String} {k : ForeignKey}

theorem Table.Refers.exists_target (h : t.Refers target k) {y : String}
    (hy : y ∈ k.targetFields) : ∃ g, target.field? y = some g := by
  obtain ⟨l, hl⟩ := List.getElem?_of_mem hy
  obtain ⟨x, hx⟩ := exists_getElem?_of_length h.length.symm hl
  obtain ⟨g, hg, -⟩ := h.pairs l x y hx hl
  exact ⟨g, hg⟩

theorem refers_of_pairs {resolve : Resolution} {declared other : Fixtures.Table}
    (ht : IsTableOf resolve s declared t) (htarget : IsTableOf resolve s other target)
    (hnodup : k.fields.Nodup) (hlength : k.targetFields.length = k.fields.length)
    (hpairs : ∀ pair ∈ k.fields.zip k.targetFields, ∃ location,
      pairErrors resolve declared other location pair.1 pair.2 = []) : t.Refers target k := by
  refine ⟨hnodup, hlength, fun l x y hx hy => ?_⟩
  obtain ⟨location, hnone⟩ := hpairs (x, y)
    (List.mem_of_getElem? (List.getElem?_zip_eq_some.mpr ⟨hx, hy⟩))
  obtain ⟨g₀, hg₀, hsame⟩ := of_pairErrors hnone
  obtain ⟨g, hg, hreviewed⟩ := htarget.field?_of_declared hg₀
  refine ⟨g, hg, fun f hf => ?_⟩
  obtain ⟨f₀, hf₀, hreviewed'⟩ := ht.field?_of_model hf
  obtain ⟨own, hown, hownTerminal⟩ := hreviewed'.resolved
  obtain ⟨its, hits, hitsTerminal⟩ := hreviewed.resolved
  rw [← hownTerminal, ← hitsTerminal]
  exact hsame f₀ own its hf₀ hown hits

namespace IsOf

theorem mem_tables (h : m.IsOf s) (ht : t ∈ m.tables) :
    ∃ declared ∈ s.tables, IsTableOf s.resolution s declared t := by
  obtain ⟨review, hmap, hreview⟩ := h.tables
  have hmem : some t ∈ s.tables.map review := by
    rw [hmap]
    exact List.mem_map_of_mem ht
  obtain ⟨declared, hdeclared, heq⟩ := List.mem_map.mp hmem
  exact ⟨declared, hdeclared, hreview declared hdeclared t heq⟩

theorem tableNames (h : m.IsOf s) : m.tableNames = s.tables.map Fixtures.Table.name := by
  obtain ⟨review, hmap, hreview⟩ := h.tables
  exact (map_of_map_eq hmap fun d hd t hdt => (hreview d hd t hdt).name.symm).symm

theorem nodup_tableNames (h : m.IsOf s) : m.tableNames.Nodup := by
  rw [h.tableNames]
  exact h.nodup

theorem table?_of_mem (h : m.IsOf s) (ht : t ∈ m.tables) : m.table? t.name = some t :=
  find?_of_mem_of_nodup h.nodup_tableNames ht

theorem table?_of_declared {declared : Fixtures.Table} (h : m.IsOf s)
    (hdeclared : s.table? name = some declared) :
    ∃ t, m.table? name = some t ∧ IsTableOf s.resolution s declared t := by
  obtain ⟨review, hmap, hreview⟩ := h.tables
  have hmem := List.mem_of_find?_eq_some hdeclared
  have hreviewed : review declared ∈ m.tables.map some := by
    rw [← hmap]
    exact List.mem_map_of_mem hmem
  obtain ⟨t, ht, heq⟩ := List.mem_map.mp hreviewed
  have hof := hreview declared hmem t heq.symm
  have hname : t.name = name := hof.name.trans (by simpa using List.find?_some hdeclared)
  exact ⟨t, hname ▸ h.table?_of_mem ht, hof⟩

theorem refers (h : m.IsOf s) (ht : t ∈ m.tables) (hk : k ∈ t.foreignKeys) :
    ∃ target, m.table? k.targetTable = some target ∧ t.Refers target k := by
  obtain ⟨declared, -, hof⟩ := h.mem_tables ht
  have hk := hof.keys k hk
  obtain ⟨other, hother, hlength, hpairs⟩ := hk.target
  obtain ⟨target, htarget, htargetOf⟩ := h.table?_of_declared hother
  exact ⟨target, htarget, refers_of_pairs hof htargetOf hk.nodup hlength hpairs⟩

end IsOf

end Model

end Fixtures
