import Fixtures.Proofs.Generation.KeyTracker
import Fixtures.Proofs.Outcome
import Fixtures.Proofs.Positions
import Fixtures.Proofs.Value.Key

namespace Fixtures.Generation

variable {before after : List KeyPlan} {k : KeyPlan} {rows : List (List Value)}
    {a b as bs : List Value}
  {types : List Terminal}

def KeyPlan.members? (k : KeyPlan) (values : List Value) : Option (List Value) :=
  k.fields.mapM fun i => values[i]?.filter fun v => !v.isNull

def Collide (k : KeyPlan) (a b : List Value) : Prop :=
  ∃ text, KeyColumn.keyOf? k.fields a = some text ∧ KeyColumn.keyOf? k.fields b = some text

theorem keyOf?_eq_map_members? :
    KeyColumn.keyOf? k.fields a = (k.members? a).map fun vs =>
      Text.joined "|" (vs.map Value.key) := by
  rw [KeyColumn.keyOf?, mapM_map, Option.map_map]
  rfl

theorem collide_iff (ha : k.members? a = some as) (hb : k.members? b = some bs) : Collide k a b ↔
    Text.joined "|" (as.map Value.key) = Text.joined "|" (bs.map Value.key) := by
  simp [Collide, keyOf?_eq_map_members?, ha, hb, eq_comm]

theorem isTaken_ofRows_iff :
    (KeyColumn.ofRows rows k).isTaken b = true ↔ ∃ r ∈ rows, Collide k r b :=
  KeyColumn.isTaken_ofRows

/-- A key is reported for a row that collides on it with a row before, and on no earlier key. -/
theorem conflict?_ofRows_eq_some (hbefore : ∀ k' ∈ before, ∀ r ∈ rows, ¬ Collide k' r b) :
    (KeyTracker.ofRows (before ++ k :: after) rows).conflict? b = some k ↔
      ∃ r ∈ rows, Collide k r b := by
  have hnone : (before.map (KeyColumn.ofRows rows)).find? (fun c => c.isTaken b) = none := by
    rw [List.find?_eq_none]
    intro c hc htaken
    obtain ⟨k', hk', rfl⟩ := List.mem_map.mp hc
    obtain ⟨r, hr, hcollide⟩ := isTaken_ofRows_iff.mp htaken
    exact hbefore k' hk' r hr hcollide
  rw [← isTaken_ofRows_iff, KeyTracker.conflict?, KeyTracker.ofRows, List.map_append,
    List.map_cons, List.find?_append, hnone, Option.none_or, List.find?_cons]
  cases htaken : (KeyColumn.ofRows rows k).isTaken b with
  | true => simp [KeyColumn.ofRows]
  | false =>
    -- A later column with the same key would be taken as well.
    simp only [Bool.false_eq_true, iff_false, Option.map_eq_some_iff, not_exists, not_and]
    rintro c hc rfl
    obtain ⟨k', hk', rfl⟩ := List.mem_map.mp (List.mem_of_find?_eq_some hc)
    have hfound := List.find?_some hc
    simp only [KeyColumn.ofRows] at htaken hfound
    rw [hfound] at htaken
    cases htaken

theorem exists_insert_ofRows {keys : List KeyPlan} :
    (∃ t, (KeyTracker.ofRows keys rows).insert a = .ok t) ↔ ∀ r ∈ rows, ¬ ShareKey keys r a := by
  constructor
  · rintro ⟨t, ht⟩
    exact (KeyTracker.insert_ofRows_eq_ok.mp ht).1
  · intro h
    exact ⟨_, KeyTracker.insert_ofRows_eq_ok.mpr ⟨h, rfl⟩⟩

structure OfTypes (types : List Terminal) (vs : List Value) : Prop where
  length : vs.length = types.length
  hasType : ∀ (j : Nat) t v, types[j]? = some t → vs[j]? = some v → v.HasType t

theorem eq_of_map_key_eq (has : OfTypes types as) (hbs : OfTypes types bs)
    (htold : (∀ v ∈ as, v.Told) ∧ ∀ v ∈ bs, v.Told) (h : as.map Value.key = bs.map Value.key) :
    as = bs := by
  refine List.ext_getElem? fun j => ?_
  have hkeys : as[j]?.map Value.key = bs[j]?.map Value.key := by
    rw [← List.getElem?_map, h, List.getElem?_map]
  cases hv : as[j]? with
  | none =>
    rw [hv] at hkeys
    exact (Option.map_eq_none_iff.mp hkeys.symm).symm
  | some v =>
    obtain ⟨w, hw, hkey⟩ := Option.map_eq_some_iff.mp (hkeys.symm.trans (by rw [hv]; rfl))
    obtain ⟨t, ht⟩ := exists_getElem?_of_length has.length.symm hv
    rw [hw, Value.eq_of_key_eq_of_hasType (has.hasType j t v ht hv) (hbs.hasType j t w ht hw)
      (htold.1 v (List.mem_of_getElem? hv)) (htold.2 w (List.mem_of_getElem? hw)) hkey.symm]

def NoBar (p : Value × Value) : Prop :=
  '|' ∉ p.1.key.toList ∧ '|' ∉ p.2.key.toList

/-- At most one field of a key has a bar in its text, by the types of the fields or as two rows have
it. -/
def OneBar (types : List Terminal) (as bs : List Value) : Prop :=
  (types.Pairwise fun t u => t.element ∈ Value.barless ∨ u.element ∈ Value.barless) ∨
    (as.zip bs).Pairwise fun p q => NoBar p ∨ NoBar q

theorem OneBar.pairwise (has : OfTypes types as) (hbs : OfTypes types bs) (h : OneBar types as bs) :
    (as.zip bs).Pairwise fun p q => NoBar p ∨ NoBar q := by
  refine h.elim (fun htypes => ?_) id
  have hnoBar : ∀ (j : Nat) t p, types[j]? = some t → (as.zip bs)[j]? = some p →
      t.element ∈ Value.barless → NoBar p := by
    intro j t p ht hp hbarless
    obtain ⟨ha, hb⟩ := List.getElem?_zip_eq_some.mp hp
    exact ⟨Value.bar_notMem_key_of_hasType hbarless (has.hasType j t _ ht ha),
      Value.bar_notMem_key_of_hasType hbarless (hbs.hasType j t _ ht hb)⟩
  have hlength : (as.zip bs).length = types.length := by
    simp [has.length, hbs.length]
  rw [List.pairwise_iff_getElem] at htypes ⊢
  intro i j hi hj hlt
  refine (htypes i j (by omega) (by omega) hlt).imp ?_ ?_
  · exact hnoBar i _ _ (List.getElem?_eq_getElem _) (List.getElem?_eq_getElem _)
  · exact hnoBar j _ _ (List.getElem?_eq_getElem _) (List.getElem?_eq_getElem _)

theorem map_key_eq_of_joined_eq (hlength : as.length = bs.length)
    (hbars : (as.zip bs).Pairwise fun p q => NoBar p ∨ NoBar q)
    (h : Text.joined "|" (as.map Value.key) = Text.joined "|" (bs.map Value.key)) :
    as.map Value.key = bs.map Value.key := by
  have hlists : ['|'].intercalate ((as.map Value.key).map String.toList) =
      ['|'].intercalate ((bs.map Value.key).map String.toList) := by
    simpa [Text.joined, String.toList_intercalate] using congrArg String.toList h
  have hchars := Text.eq_of_intercalate_eq (by simpa using hlength)
    (by
      rw [List.map_map, List.map_map, List.zip_map, List.pairwise_map]
      exact hbars) hlists
  exact (List.map_inj_right fun _ _ heq => String.toList_injective heq).mp hchars

/-- What it means that two rows collide on a key, by the values that they have in it. -/
structure CollidesBy (types : List Terminal) (as bs : List Value) (collide : Prop) : Prop where
  texts : collide ↔ Text.joined "|" (as.map Value.key) = Text.joined "|" (bs.map Value.key)
  equal : as = bs → collide
  parts : OneBar types as bs → (collide ↔ as.map Value.key = bs.map Value.key)
  values : OneBar types as bs → (∀ v ∈ as, v.Told) → (∀ v ∈ bs, v.Told) → (collide ↔ as = bs)

theorem collidesBy (ha : k.members? a = some as) (hb : k.members? b = some bs)
    (has : OfTypes types as) (hbs : OfTypes types bs) : CollidesBy types as bs (Collide k a b) := by
  have hlength : as.length = bs.length := has.length.trans hbs.length.symm
  have hequal : as = bs → Collide k a b := fun h => (collide_iff ha hb).mpr (by rw [h])
  have hparts : OneBar types as bs → (Collide k a b ↔ as.map Value.key = bs.map Value.key) := by
    intro hbar
    rw [collide_iff ha hb]
    exact ⟨map_key_eq_of_joined_eq hlength (hbar.pairwise has hbs), fun h => by rw [h]⟩
  refine ⟨collide_iff ha hb, hequal, hparts, fun hbar htold htold' => ⟨fun h => ?_, hequal⟩⟩
  exact eq_of_map_key_eq has hbs ⟨htold, htold'⟩ ((hparts hbar).mp h)

/-- Rows are taken one by one. After a row is taken, another one is reported on a key, unless it is
on an earlier one, if it collides there with that row or with one before. Two rows whose values in
the key are not null collide if the joined texts of these values are the same. That is so for all
rows that agree on the key. It is so for them only if at most one field has a bar in its text, as
far as texts tell values apart. -/
theorem reports_collisions (rows : List (List Value)) (before after : List KeyPlan)
    (ha : k.members? a = some as) (hb : k.members? b = some bs) (has : OfTypes types as)
    (hbs : OfTypes types bs) :
    ((∃ t, (KeyTracker.ofRows (before ++ k :: after) rows).insert a = .ok t) ↔
        ∀ r ∈ rows, ¬ ShareKey (before ++ k :: after) r a) ∧
      (∀ t, (KeyTracker.ofRows (before ++ k :: after) rows).insert a = .ok t →
        (∀ k' ∈ before, ∀ r ∈ rows ++ [a], ¬ Collide k' r b) →
          (t.conflict? b = some k ↔ (∃ r ∈ rows, Collide k r b) ∨ Collide k a b)) ∧
      CollidesBy types as bs (Collide k a b) := by
  refine ⟨exists_insert_ofRows, fun t ht hbefore => ?_, collidesBy ha hb has hbs⟩
  rw [(KeyTracker.insert_ofRows_eq_ok.mp ht).2, conflict?_ofRows_eq_some hbefore]
  simp [or_and_right, exists_or]

def shelfKey : KeyPlan :=
  ⟨"unique(shelf, place)", [0, 1]⟩

theorem ofTypes_pair {t u : Terminal} {v w : Value} (hv : v.HasType t) (hw : w.HasType u) :
    OfTypes [t, u] [v, w] := by
  refine ⟨rfl, fun j t' v' ht hv' => ?_⟩
  match j with
  | 0 =>
    cases ht
    cases hv'
    exact hv
  | 1 =>
    cases ht
    cases hv'
    exact hw

/-- A bar in the text of one field does no harm. -/
theorem reports_collisions_shelf : ∃ t,
    (KeyTracker.ofKeys [shelfKey]).insert [.text "a|b", .int 1] = .ok t ∧
      (t.conflict? [.text "a|b", .int 1] = some shelfKey) ∧
      (t.conflict? [.text "a", .int 1] ≠ some shelfKey) := by
  have htypes : ∀ s, OfTypes [.primitive .string, .primitive .integer] [.text s, .int 1] :=
    fun s => ofTypes_pair (v := .text s) (w := .int 1) rfl rfl
  have hmembers : ∀ s, shelfKey.members? [.text s, .int 1] = some [.text s, .int 1] := fun _ => rfl
  have hbar : ∀ s s',
      OneBar [.primitive .string, .primitive .integer] [.text s, .int 1] [.text s', .int 1] :=
    fun _ _ => .inl (by decide)
  have htold : ∀ s, ∀ v ∈ [Value.text s, .int 1], v.Told := by simp [Value.Told, Value.Legible]
  obtain ⟨hinsert, hreported, hcollide⟩ :=
    reports_collisions [] [] [] (hmembers "a|b") (hmembers "a|b") (htypes "a|b") (htypes "a|b")
  obtain ⟨-, hreported', hcollide'⟩ :=
    reports_collisions [] [] [] (hmembers "a|b") (hmembers "a") (htypes "a|b") (htypes "a")
  obtain ⟨t, ht⟩ := hinsert.mpr (by simp)
  refine ⟨t, ht, ?_, ?_⟩
  · rw [hreported t ht (by simp)]
    exact .inr (hcollide.equal rfl)
  · rw [Ne, hreported' t ht (by simp), hcollide'.values (hbar _ _) (htold _) (htold _)]
    simp

/-- With two such fields a bar in a text is not told from one between texts, and rows collide that
do not agree on the key. -/
theorem not_collide_only_if_equal :
    ¬ ∀ (k : KeyPlan) (types : List Terminal) (a b as bs : List Value),
    k.members? a = some as → k.members? b = some bs → OfTypes types as → OfTypes types bs →
      ∀ t, (KeyTracker.ofKeys [k]).insert a = .ok t → (t.conflict? b = some k ↔ as = bs) := by
  intro h
  have htypes : ∀ s s', OfTypes [.primitive .string, .primitive .string] [.text s, .text s'] :=
    fun s s' => ofTypes_pair (v := .text s) (w := .text s') rfl rfl
  have hequal := (h shelfKey _ [.text "x|y", .text "z"] [.text "x",
    .text "y|z"] _ _ rfl rfl (htypes _ _)
    (htypes _ _) _ rfl).mp (by decide +kernel)
  simp at hequal

end Fixtures.Generation
