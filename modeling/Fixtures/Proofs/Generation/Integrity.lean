import Fixtures.Proofs.Generation.Conformity

namespace Fixtures

/-- The values of a record in the fields of a foreign key are those of another record in the target
fields, and none of them is null. -/
structure Record.Refers (r d : Record) (k : ForeignKey) : Prop where
  tuple : k.fields.map r.get? = k.targetFields.map d.get?
  complete : ∀ x ∈ k.fields, ∃ v, v ≠ .null ∧ r.get? x = some v

theorem Record.Refers.get?_eq {r d : Record} {k : ForeignKey} {l : Nat} {x y : String}
    (h : r.Refers d k) (hx : k.fields[l]? = some x) (hy : k.targetFields[l]? = some y) :
    d.get? y = r.get? x := by
  have hl : (k.fields.map r.get?)[l]? = (k.targetFields.map d.get?)[l]? := by rw [h.tuple]
  rw [List.getElem?_map, List.getElem?_map, hx, hy] at hl
  exact (Option.some.inj hl).symm

namespace Generation

variable {s : Schema} {o : Options} {seed : UInt64} {out : Output} {m : Model} {run : Run}
  {done : List Finished} {t : Model.Table} {r d : Record} {draws : List Record} {k : ForeignKey}
  {j : Nat} {x y : String}

theorem refers_of_pairs (hlength : k.targetFields.length = k.fields.length)
    (h : ∀ (l : Nat) x y, k.fields[l]? = some x → k.targetFields[l]? = some y →
      ∃ v, v ≠ .null ∧ r.get? x = some v ∧ d.get? y = some v) : r.Refers d k := by
  constructor
  · refine List.ext_getElem? fun l => ?_
    rw [List.getElem?_map, List.getElem?_map]
    cases hx : k.fields[l]? with
    | none =>
      rw [List.getElem?_eq_none_iff, ← hlength, ← List.getElem?_eq_none_iff] at hx
      rw [hx]
      rfl
    | some x =>
      obtain ⟨y, hy⟩ := exists_getElem?_of_length hlength hx
      obtain ⟨v, -, hr, hd⟩ := h l x y hx hy
      rw [hy, Option.map_some, Option.map_some, hr, hd]
  · intro x hx
    obtain ⟨l, hl⟩ := List.getElem?_of_mem hx
    obtain ⟨y, hy⟩ := exists_getElem?_of_length hlength hl
    obtain ⟨v, hne, hr, -⟩ := h l x y hl hy
    exact ⟨v, hne, hr⟩

def Output.Holds (out : Output) (k : ForeignKey) (r : Record) : Prop :=
  ∃ targets, (k.targetTable, targets) ∈ out.tables ∧ ∃ d ∈ targets, r.Refers d k

def IsLastOf (t : Model.Table) (j : Nat) (x : String) : Prop :=
  ∀ (j' : Nat) k', j < j' → t.foreignKeys[j']? = some k' → x ∉ k'.fields

/-- A field is paired with a field of the record that is drawn for the last foreign key that has
it. -/
def LastDraw (t : Model.Table) (draws : List Record) (x : String) (d : Record) (y : String) :
    Prop :=
  ∃ (j l : Nat) (k : ForeignKey), t.foreignKeys[j]? = some k ∧ draws[j]? = some d ∧
    k.fields[l]? = some x ∧ k.targetFields[l]? = some y ∧ IsLastOf t j x

theorem DrawnFrom.get?_of_lastDraw (h : DrawnFrom done t r draws) (hlast : LastDraw t draws x d y) :
    ∃ v, v ≠ .null ∧ r.get? x = some v ∧ d.get? y = some v := by
  obtain ⟨j, l, k, hk, hd, hx, hy, hlast⟩ := hlast
  obtain ⟨v, -, hne, hr, hdv, -⟩ := h.values j k d hk hd l x y hx hy hlast
  exact ⟨v, hne, hr, hdv⟩

theorem DrawnFrom.exists_lastDraw (h : DrawnFrom done t r draws)
    (hlengths : ∀ k ∈ t.foreignKeys, k.targetFields.length = k.fields.length)
    (hk : k ∈ t.foreignKeys) (hx : x ∈ k.fields) : ∃ d y, LastDraw t draws x d y := by
  obtain ⟨j, k', hk', hmem, hlast⟩ := exists_last (p := fun k => x ∈ k.fields) ⟨k, hk, hx⟩
  obtain ⟨d, hd⟩ := exists_getElem?_of_length h.length hk'
  obtain ⟨l, hl⟩ := List.getElem?_of_mem hmem
  obtain ⟨y, hy⟩ := exists_getElem?_of_length (hlengths k' (List.mem_of_getElem? hk')) hl
  exact ⟨d, y, j, l, k', hk', hd, hl, hy, hlast⟩

theorem DrawnFrom.refers (h : DrawnFrom done t r draws)
    (hlengths : ∀ k ∈ t.foreignKeys, k.targetFields.length = k.fields.length)
    (hk : k ∈ t.foreignKeys)
    (hagree : ∀ (l : Nat) x y, k.fields[l]? = some x → k.targetFields[l]? = some y →
      ∀ d' y', LastDraw t draws x d' y' → d.get? y = d'.get? y') : r.Refers d k := by
  refine refers_of_pairs (hlengths k hk) fun l x y hx hy => ?_
  obtain ⟨d', y', hlast⟩ := h.exists_lastDraw hlengths hk (List.mem_of_getElem? hx)
  obtain ⟨v, hne, hr, hd⟩ := h.get?_of_lastDraw hlast
  exact ⟨v, hne, hr, (hagree l x y hx hy d' y' hlast).trans hd⟩

theorem DrawnFrom.agree_of_refers (h : DrawnFrom done t r draws) (hrefers : r.Refers d k) {l : Nat}
    (hx : k.fields[l]? = some x) (hy : k.targetFields[l]? = some y) {d' : Record} {y' : String}
    (hlast : LastDraw t draws x d' y') : d.get? y = d'.get? y' := by
  obtain ⟨v, -, hr, hd⟩ := h.get?_of_lastDraw hlast
  rw [hrefers.get?_eq hx hy, hr, hd]

/-- A foreign key without a field of a later one refers to the record that is drawn for it. -/
theorem DrawnFrom.refers_of_isLast (h : DrawnFrom done t r draws)
    (hlengths : ∀ k ∈ t.foreignKeys, k.targetFields.length = k.fields.length)
    (hk : t.foreignKeys[j]? = some k) (hd : draws[j]? = some d)
    (hlast : ∀ x ∈ k.fields, IsLastOf t j x) : r.Refers d k := by
  refine refers_of_pairs (hlengths k (List.mem_of_getElem? hk)) fun l x y hx hy => ?_
  obtain ⟨v, -, hne, hr, hdv, -⟩ :=
    h.values j k d hk hd l x y hx hy (hlast x (List.mem_of_getElem? hx))
  exact ⟨v, hne, hr, hdv⟩

/-- What holds of all records of an output that are drawn from records of the output. -/
theorem forall_drawn (h : Generation.run s o seed = .ok out) : ∃ m,
    s.compile = .ok (m, out.order) ∧ ∀ t ∈ m.tables,
      (∀ k ∈ t.foreignKeys, k.targetFields.length = k.fields.length) ∧
      ∀ records, (t.name, records) ∈ out.tables → ∀ r ∈ records, ∃ before draws,
        DrawnFrom before t r draws ∧
          ∀ g ∈ before, (g.table.name, g.records) ∈ out.tables := by
  obtain ⟨run, done, hcomplete⟩ := exists_complete h
  refine ⟨run.model, hcomplete.compiled, fun t ht =>
    ⟨fun k hk => ?_, fun records hentry r hr => ?_⟩⟩
  · obtain ⟨target, -, hrefers⟩ := hcomplete.model.refers ht hk
    exact hrefers.length
  · obtain ⟨f, hf, hname, rfl⟩ := hcomplete.exists_finished hentry
    have hof := hcomplete.planned f hf
    have htable := hof.table?_name
    rw [hname, hcomplete.model.table?_of_mem ht] at htable
    cases htable
    obtain ⟨before, after, rfl⟩ := List.append_of_mem hf
    have hbefore : ∀ g ∈ before, g ∈ before ++ f :: after := fun g hg => List.mem_append_left _ hg
    obtain ⟨draws, hdrawn⟩ := exists_draws hcomplete.model
      (fun g hg => hcomplete.planned g (hbefore g hg)) hof hcomplete.finished.isNext hr
    exact ⟨before, draws, hdrawn, fun g hg => hcomplete.mem_tables (hbefore g hg)⟩

/-- The foreign keys of each record are drawn from records of their target tables, one for each, and
a field has the value of the last draw. A foreign key holds exactly if its target table has a record
that agrees with the last draws of all its fields, and always if no later key has one of its
fields. -/
def Output.KeepsLastKeys (out : Output) (s : Schema) : Prop :=
  ∃ m, s.compile = .ok (m, out.order) ∧ ∀ t ∈ m.tables, ∀ records, (t.name, records) ∈ out.tables →
    ∀ r ∈ records, ∃ draws : List Record,
      (∀ (j : Nat) k, t.foreignKeys[j]? = some k → ∃ d targets, draws[j]? = some d ∧
        (k.targetTable, targets) ∈ out.tables ∧ d ∈ targets) ∧
      (∀ x d y, LastDraw t draws x d y → ∃ v, v ≠ .null ∧ r.get? x = some v ∧ d.get? y = some v) ∧
      ∀ (j : Nat) k, t.foreignKeys[j]? = some k →
        (out.Holds k r ↔ ∃ targets, (k.targetTable, targets) ∈ out.tables ∧ ∃ d ∈ targets,
          ∀ (l : Nat) x y, k.fields[l]? = some x → k.targetFields[l]? = some y →
            ∀ d' y', LastDraw t draws x d' y' → d.get? y = d'.get? y') ∧
        ((∀ x ∈ k.fields, IsLastOf t j x) → out.Holds k r)

theorem keeps_last_keys (h : Generation.run s o seed = .ok out) : out.KeepsLastKeys s := by
  obtain ⟨m, hcompile, hall⟩ := forall_drawn h
  refine ⟨m, hcompile, fun t ht records hentry r hr => ?_⟩
  obtain ⟨hlengths, hrecords⟩ := hall t ht
  obtain ⟨before, draws, hdrawn, hbefore⟩ := hrecords records hentry r hr
  have hparent : ∀ (j : Nat) k, t.foreignKeys[j]? = some k → ∃ d targets, draws[j]? = some d ∧
      (k.targetTable, targets) ∈ out.tables ∧ d ∈ targets := by
    intro j k hk
    obtain ⟨d, hd⟩ := exists_getElem?_of_length hdrawn.length hk
    obtain ⟨parent, hmem, hname, hdmem⟩ := hdrawn.parents j k d hk hd
    exact ⟨d, parent.records, hd, hname ▸ hbefore parent hmem, hdmem⟩
  refine ⟨draws, hparent, fun x d y => hdrawn.get?_of_lastDraw, fun j k hk => ⟨?_, fun hlast => ?_⟩⟩
  · constructor
    · rintro ⟨targets, htargets, d, hd, hrefers⟩
      exact ⟨targets, htargets, d, hd, fun l x y hx hy d' y' =>
        hdrawn.agree_of_refers hrefers hx hy⟩
    · rintro ⟨targets, htargets, d, hd, hagree⟩
      exact ⟨targets, htargets, d, hd, hdrawn.refers hlengths (List.mem_of_getElem? hk) hagree⟩
  · obtain ⟨d, targets, hd, htargets, hmem⟩ := hparent j k hk
    exact ⟨targets, htargets, d, hmem, hdrawn.refers_of_isLast hlengths hk hd hlast⟩

/-- The whole numbers of a record in some fields. Unlike values, which may be floats, they can be
compared. -/
def intsOf (r : Record) (fields : List String) : List (Option Int) :=
  fields.map fun x => (r.get? x).bind Value.int?

theorem intsOf_eq_of_refers (h : r.Refers d k) : intsOf r k.fields = intsOf d k.targetFields := by
  have hmap := congrArg (List.map fun v : Option Value => v.bind Value.int?) h.tuple
  simpa [intsOf, Function.comp_def] using hmap

/-- Whether the target table has a record with the same whole numbers as those of a foreign key. -/
def mayHold (out : Output) (k : ForeignKey) (r : Record) : Bool :=
  out.tables.any fun entry => entry.1 = k.targetTable &&
    entry.2.any fun d => intsOf r k.fields = intsOf d k.targetFields

theorem mayHold_of_holds (h : out.Holds k r) : mayHold out k r = true := by
  obtain ⟨targets, htargets, d, hd, hrefers⟩ := h
  simp only [mayHold, List.any_eq_true, Bool.and_eq_true, decide_eq_true_eq]
  exact ⟨_, htargets, rfl, d, hd, intsOf_eq_of_refers hrefers⟩

def overlapSchema : Schema :=
  let intField (name : String) (constraints : List Constraint) : Field :=
    { name, dataType := .primitive .integer, constraints }
  { name := "s"
    tables := [
      { name := "p"
        fields := [intField "x" [], intField "y" []]
        constraints := [.primaryKey none ["x", "y"]]
        directive := some { count := some 2 } },
      { name := "q"
        fields := [intField "z" [.primaryKey none [], .range (some (.int 2)) none]]
        directive := some { count := some 1 } },
      { name := "c"
        fields := [intField "a" [], intField "b" []]
        constraints := [
          .foreignKey ⟨none, ["a", "b"], "p", ["x", "y"], none⟩,
          .foreignKey ⟨none, ["b"], "q", ["z"], none⟩]
        directive := some { count := some 4 } }] }

/-- Whether a table with overlapping foreign keys has a record with a key that no record has. -/
def dangles (out : Output) (m : Model) : Bool :=
  m.tables.any fun t => (t.fieldNames.any fun x => 1 < t.foreignKeys.countP fun k =>
    k.fields.contains x) &&
    out.tables.any fun entry => entry.1 = t.name &&
      entry.2.any fun r => t.foreignKeys.any fun k => !mayHold out k r

theorem overlapSchema_dangles :
    (match Generation.run overlapSchema {} 1, overlapSchema.compile with
      | .ok out, .ok (m, order) => decide (order = out.order) && dangles out m
      | _, _ => false) = true := by
  decide +kernel

theorem keeps_last_keys_overlap :
    ∃ out, Generation.run overlapSchema {} 1 = .ok out ∧ out.KeepsLastKeys overlapSchema := by
  have h := overlapSchema_dangles
  split at h
  · next out m order hrun _ => exact ⟨out, hrun, keeps_last_keys hrun⟩
  · cases h

/-- The later key overwrites the field that it shares with the earlier one, which then holds no
more. -/
theorem overlapping_key_dangles : ∃ out m t x records r k,
    Generation.run overlapSchema {} 1 = .ok out ∧ overlapSchema.compile = .ok (m, out.order) ∧
      t ∈ m.tables ∧ 1 < t.foreignKeys.countP (fun k => k.fields.contains x) ∧
      (t.name, records) ∈ out.tables ∧ r ∈ records ∧ k ∈ t.foreignKeys ∧ ¬ out.Holds k r := by
  have h := overlapSchema_dangles
  split at h
  · next out m order hrun hcompile =>
    simp only [dangles, Bool.and_eq_true, List.any_eq_true, decide_eq_true_eq, Bool.not_eq_true']
      at h
    obtain ⟨rfl, t, ht, ⟨x, -, hx⟩, ⟨name, records⟩, hentry, rfl, r, hr, k, hk, hmay⟩ := h
    refine ⟨out, m, t, x, records, r, k, hrun, hcompile, ht, hx, hentry, hr, hk, fun hholds => ?_⟩
    simp [mayHold_of_holds hholds] at hmay
  · cases h

/-- A foreign key that shares no field with another one of its table holds for every record, and the
domains of its fields admit what they have. -/
def Output.KeepsDisjointKeys (out : Output) (s : Schema) : Prop :=
  ∃ m, s.compile = .ok (m, out.order) ∧ ∀ t ∈ m.tables, ∀ (j : Nat) k,
    t.foreignKeys[j]? = some k →
    (∀ (j' : Nat) k', j' ≠ j → t.foreignKeys[j']? = some k' → ∀ x ∈ k.fields, x ∉ k'.fields) →
    ∀ records, (t.name, records) ∈ out.tables → ∀ r ∈ records,
      out.Holds k r ∧ ∀ x ∈ k.fields, ∃ f v, t.field? x = some f ∧ r.get? x = some v ∧
        f.domain.admits v = true

theorem keeps_disjoint_keys (h : Generation.run s o seed = .ok out) : out.KeepsDisjointKeys s := by
  obtain ⟨m, hcompile, hall⟩ := forall_drawn h
  refine ⟨m, hcompile, fun t ht j k hk hdisjoint records hentry r hr => ?_⟩
  obtain ⟨hlengths, hrecords⟩ := hall t ht
  obtain ⟨before, draws, hdrawn, hbefore⟩ := hrecords records hentry r hr
  have hlast : ∀ x ∈ k.fields, IsLastOf t j x := fun x hx j' k' hj' hk' =>
    hdisjoint j' k' (Nat.ne_of_gt hj') hk' x hx
  obtain ⟨d, hd⟩ := exists_getElem?_of_length hdrawn.length hk
  obtain ⟨parent, hmem, hname, hdmem⟩ := hdrawn.parents j k d hk hd
  refine ⟨⟨parent.records, hname ▸ hbefore parent hmem, d, hdmem,
    hdrawn.refers_of_isLast hlengths hk hd hlast⟩, fun x hx => ?_⟩
  obtain ⟨l, hl⟩ := List.getElem?_of_mem hx
  obtain ⟨y, hy⟩ := exists_getElem?_of_length (hlengths k (List.mem_of_getElem? hk)) hl
  obtain ⟨v, f, -, hv, -, hf, hadmitted⟩ := hdrawn.values j k d hk hd l x y hl hy (hlast x hx)
  exact ⟨f, v, hf, hv, by simp [Domain.admits, hadmitted]⟩

theorem keeps_disjoint_keys_family :
    ∃ out, Generation.run familySchema {} 2 = .ok out ∧ out.KeepsDisjointKeys familySchema := by
  obtain ⟨out, hrun, -⟩ := exists_family_output
  exact ⟨out, hrun, keeps_disjoint_keys hrun⟩

end Generation

end Fixtures
