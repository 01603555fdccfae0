import Fixtures.Generation.KeyTracker

namespace Fixtures.Generation

variable {keys : List KeyPlan} {rows : List (List Value)} {values : List Value}

def ShareKey (keys : List KeyPlan) (a b : List Value) : Prop :=
  ∃ k ∈ keys, ∃ text, KeyColumn.keyOf? k.fields a = some text ∧
    KeyColumn.keyOf? k.fields b = some text

namespace KeyColumn

def ofRows (rows : List (List Value)) (k : KeyPlan) : KeyColumn :=
  ⟨k, rows.reverse.filterMap (keyOf? k.fields)⟩

theorem isTaken_ofRows {k : KeyPlan} : (ofRows rows k).isTaken values = true ↔
    ∃ r ∈ rows, ∃ text, keyOf? k.fields r = some text ∧ keyOf? k.fields values = some text := by
  cases hv : keyOf? k.fields values with
  | none => simp [isTaken, ofRows, hv]
  | some text =>
    simp [isTaken, ofRows, hv]

theorem add_ofRows (rows : List (List Value)) (values : List Value) (k : KeyPlan) :
    (ofRows rows k).add values = ofRows (rows ++ [values]) k := by
  cases hv : keyOf? k.fields values <;> simp [add, ofRows, hv]

/-- A row without a null in its key has a text of it, which its values' texts make up. -/
theorem keyOf?_eq_some {fields : List Nat} {texts : List String}
    (htexts : fields.map (fun i => values[i]?.map Value.key) = texts.map some)
    (hnull : ∀ i ∈ fields, values[i]? ≠ some .null) :
    keyOf? fields values = some (Text.joined "|" texts) := by
  have hparts : (fields.mapM fun i => (values[i]?.filter fun v => !v.isNull).map Value.key) =
      some texts := by
    induction fields generalizing texts with
    | nil => cases texts <;> simp_all
    | cons i fields ih =>
      cases texts with
      | nil => simp at htexts
      | cons text texts =>
        rw [List.map_cons, List.map_cons, List.cons.injEq] at htexts
        obtain ⟨hi, hrest⟩ := List.forall_mem_cons.mp hnull
        obtain ⟨v, hv, hkey⟩ := Option.map_eq_some_iff.mp htexts.1
        have hkept : (values[i]?.filter fun v => !v.isNull) = some v := by
          cases v <;> simp_all [Option.filter, Value.isNull]
        simp [List.mapM_cons, hkept, hkey, ih htexts.2 hrest]
  rw [keyOf?, hparts, Option.map_some]

theorem keyOf?_singleton {i : Nat} {v : Value} (hv : values[i]? = some v) (hnull : v ≠ .null) :
    keyOf? [i] values = some v.key := by
  have htexts : [i].map (fun i => values[i]?.map Value.key) = [v.key].map some := by
    simp [hv]
  have hnulls : ∀ j ∈ [i], values[j]? ≠ some .null := by
    simpa [hv] using hnull
  rw [keyOf?_eq_some htexts hnulls]
  simp [Text.joined]

end KeyColumn

namespace KeyTracker

def ofRows (keys : List KeyPlan) (rows : List (List Value)) : KeyTracker :=
  ⟨keys.map (KeyColumn.ofRows rows)⟩

theorem conflict?_ofRows_eq_none :
    (ofRows keys rows).conflict? values = none ↔ ∀ r ∈ rows, ¬ ShareKey keys r values := by
  have hnone : (ofRows keys rows).conflict? values = none ↔
      ∀ k ∈ keys, ¬ (KeyColumn.ofRows rows k).isTaken values = true := by
    simp [conflict?, ofRows]
  rw [hnone]
  constructor
  · rintro h r hr ⟨k, hk, text, ha, hb⟩
    exact h k hk (KeyColumn.isTaken_ofRows.mpr ⟨r, hr, text, ha, hb⟩)
  · intro h k hk ht
    obtain ⟨r, hr, text, ha, hb⟩ := KeyColumn.isTaken_ofRows.mp ht
    exact h r hr ⟨k, hk, text, ha, hb⟩

theorem insert_ofRows_eq_ok {next : KeyTracker} :
    (ofRows keys rows).insert values = .ok next ↔
      (∀ r ∈ rows, ¬ ShareKey keys r values) ∧ next = ofRows keys (rows ++ [values]) := by
  rw [← conflict?_ofRows_eq_none, insert]
  cases (ofRows keys rows).conflict? values with
  | some key => simp
  | none => simp [ofRows, KeyColumn.add_ofRows, Function.comp_def, eq_comm]

end KeyTracker

end Fixtures.Generation
