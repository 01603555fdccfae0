import Mathlib.Data.Set.Basic
import Fixtures.Proofs.Generation.CompositeKeys

namespace Fixtures.Generation

variable {keys : List KeyPlan} {k : KeyPlan} {rows done : List (List Value)} {row : List Value}
    {text : String}

/-- The texts that rows have in a key. A row with a null in it has none. -/
def KeyPlan.textsOf (k : KeyPlan) (rows : List (List Value)) : Set String :=
  {text | ∃ r ∈ rows, ∃ vs, k.members? r = some vs ∧ text = Text.joined "|" (vs.map Value.key)}

theorem KeyPlan.mem_textsOf :
    text ∈ k.textsOf rows ↔ ∃ r ∈ rows, KeyColumn.keyOf? k.fields r = some text := by
  simp only [textsOf, Set.mem_ofPred_eq, keyOf?_eq_map_members?, Option.map_eq_some_iff,
    eq_comm (a := text)]

theorem KeyPlan.textsOf_append {more : List (List Value)} :
    k.textsOf (rows ++ more) = k.textsOf rows ∪ k.textsOf more := by
  ext text
  simp [mem_textsOf, or_and_right, exists_or]

namespace KeyColumn

def texts (c : KeyColumn) : Set String :=
  {text | text ∈ c.taken}

theorem texts_ofRows : (ofRows rows k).texts = k.textsOf rows := by
  ext text
  simp [texts, ofRows, KeyPlan.mem_textsOf]

theorem nodup_add {c : KeyColumn} (hnodup : c.taken.Nodup) (h : c.isTaken row = false) :
    (c.add row).taken.Nodup := by
  cases hrow : keyOf? c.plan.fields row with
  | none => simpa [add, hrow] using hnodup
  | some text => simpa [add, isTaken, hrow, hnodup] using h

end KeyColumn

def KeyPlan.Meets (k : KeyPlan) (rows : List (List Value)) (row : List Value) : Prop :=
  (k.textsOf rows ∩ k.textsOf [row]).Nonempty

theorem meets_iff : k.Meets rows row ↔ (KeyColumn.ofRows rows k).isTaken row = true := by
  rw [KeyColumn.isTaken_ofRows]
  constructor
  · rintro ⟨text, hrows, hrow⟩
    obtain ⟨r, hr, hr'⟩ := KeyPlan.mem_textsOf.mp hrows
    exact ⟨r, hr, text, hr', by simpa [KeyPlan.mem_textsOf] using hrow⟩
  · rintro ⟨r, hr, text, hr', hrow⟩
    exact ⟨text, KeyPlan.mem_textsOf.mpr ⟨r, hr, hr'⟩, by simpa [KeyPlan.mem_textsOf] using hrow⟩

theorem KeyPlan.Meets.append (h : k.Meets rows row) (more : List (List Value)) :
    k.Meets (rows ++ more) row := by
  rw [Meets, textsOf_append]
  exact h.mono (Set.inter_subset_inter_left _ Set.subset_union_left)

def IsFirstMet (keys : List KeyPlan) (rows : List (List Value)) (row : List Value) (k : KeyPlan) :
    Prop :=
  ∃ before after, keys = before ++ k :: after ∧ k.Meets rows row ∧
  ∀ k' ∈ before, ¬ k'.Meets rows row

namespace KeyTracker

variable {t next : KeyTracker}

theorem insert_eq_error : t.insert row = .error k ↔ t.conflict? row = some k := by
  rw [insert]
  cases t.conflict? row <;> simp

theorem insert_eq_ok : t.insert row = .ok next ↔
    (∀ c ∈ t.columns, c.isTaken row = false) ∧ next = ⟨t.columns.map fun c => c.add row⟩ := by
  have hfree : (∀ c ∈ t.columns, c.isTaken row = false) ↔ t.conflict? row = none := by
    simp [conflict?]
  rw [hfree, insert]
  cases t.conflict? row <;> simp [eq_comm]

theorem conflict?_ofRows_eq_some_iff :
    (ofRows keys rows).conflict? row = some k ↔ IsFirstMet keys rows row k := by
  simp only [conflict?, ofRows, Option.map_eq_some_iff, List.find?_eq_some_iff_append, IsFirstMet,
    meets_iff]
  constructor
  · rintro ⟨c, ⟨hc, before, after, hkeys, hbefore⟩, rfl⟩
    obtain ⟨before, rest, rfl, rfl, hrest⟩ := List.map_eq_append_iff.mp hkeys
    obtain ⟨k, after, rfl, rfl, rfl⟩ := List.map_eq_cons_iff.mp hrest
    exact ⟨before, after, rfl, hc, by simpa using hbefore⟩
  · rintro ⟨before, after, rfl, hk, hbefore⟩
    exact ⟨_, ⟨hk, _, _, List.map_append, by simpa using hbefore⟩, rfl⟩

theorem isSome_conflict?_ofRows :
    ((ofRows keys rows).conflict? row).isSome ↔ ∃ k ∈ keys, k.Meets rows row := by
  simp [conflict?, ofRows, meets_iff]

/-- What a tracker is after a row is tried: it has the keys of a row that it accepts. -/
def attempt (t : KeyTracker) (row : List Value) : KeyTracker :=
  match t.insert row with
  | .ok next => next
  | .error _ => t

/-- The rows that a tracker accepts as they are tried one after the other. -/
def accepted (t : KeyTracker) : List (List Value) → List (List Value)
  | [] => []
  | row :: rest =>
    match t.insert row with
    | .ok next => row :: accepted next rest
    | .error _ => accepted t rest

theorem attempt_of_ok (h : t.insert row = .ok next) : t.attempt row = next := by
  rw [attempt, h]

theorem attempt_of_error (h : t.insert row = .error k) : t.attempt row = t := by
  rw [attempt, h]

theorem foldl_attempt_ofRows (rows : List (List Value)) :
    rows.foldl attempt (ofRows keys done) = ofRows keys (done ++
        (ofRows keys done).accepted rows) := by
  -- The rows of `done` are those that were accepted so far.
  induction rows generalizing done with
  | nil => simp [accepted]
  | cons row rest ih =>
    rw [List.foldl_cons, accepted]
    cases h : (ofRows keys done).insert row with
    | error k => rw [attempt_of_error h, ih]
    | ok next =>
      obtain ⟨-, rfl⟩ := insert_ofRows_eq_ok.mp h
      rw [attempt_of_ok h, ih, List.append_assoc, List.singleton_append]

theorem nodup_attempt (h : ∀ c ∈ t.columns, c.taken.Nodup) :
    ∀ c ∈ (t.attempt row).columns, c.taken.Nodup := by
  cases hinsert : t.insert row with
  | error k => rwa [attempt_of_error hinsert]
  | ok next =>
    obtain ⟨hfree, rfl⟩ := insert_eq_ok.mp hinsert
    rw [attempt_of_ok hinsert]
    intro c hc
    obtain ⟨c, hmem, rfl⟩ := List.mem_map.mp hc
    exact KeyColumn.nodup_add (h c hmem) (hfree c hmem)

/-- A step on the texts that are taken in each key. It may refuse a row with a key, and what it has
changed by then stays. -/
abbrev InPlace := ExceptT KeyPlan (StateM (List (List String)))

def conflictIn? (keys : List KeyPlan) (seen : List (List String)) (row : List Value) :
    Option KeyPlan :=
  ((keys.zip seen).find? fun (k, taken) =>
    (KeyColumn.keyOf? k.fields row).any taken.contains).map Prod.fst

def lookUp (entry : (KeyPlan × Option String) × List String) : InPlace Unit :=
  if entry.1.2.any entry.2.contains then throw entry.1.1 else pure ()

def withText (text : Option String) (taken : List String) : List String :=
  text.elim taken taken.insert

def putText (entry : Option String × Nat) : InPlace Unit :=
  modify fun seen => seen.modify entry.2 (withText entry.1)

/-- Looks the texts of a row up in all sets, then puts each into its own. -/
def insertInPlace (keys : List KeyPlan) (row : List Value) : InPlace Unit := do
  let texts := keys.map fun k => KeyColumn.keyOf? k.fields row
  forM ((keys.zip texts).zip (← get)) lookUp
  forM texts.zipIdx putText

def plans (t : KeyTracker) : List KeyPlan :=
  t.columns.map KeyColumn.plan

def sets (t : KeyTracker) : List (List String) :=
  t.columns.map KeyColumn.taken

theorem conflictIn?_plans_sets : conflictIn? t.plans t.sets row = t.conflict? row := by
  rw [conflictIn?, plans, sets, List.zip_map', List.find?_map, Option.map_map]
  rfl

section Runs

variable {α : Type} {step : InPlace Unit} {rest : Unit → InPlace Unit}
    {seen after : List (List String)}

theorem run_bind_of_ok (h : step.run.run seen = (.ok (), after)) :
    (step >>= rest).run.run seen = (rest ()).run.run after := by
  simp only [ExceptT.run_bind, StateT.run_bind, h]
  rfl

theorem run_bind_of_error (h : step.run.run seen = (.error k, after)) :
    (step >>= rest).run.run seen = (.error k, after) := by
  simp only [ExceptT.run_bind, StateT.run_bind, h]
  rfl

theorem run_lookUp (entries : List ((KeyPlan × Option String) × List String)) :
    (forM entries lookUp).run.run seen =
      ((match entries.find? fun entry => entry.1.2.any entry.2.contains with
        | some entry => .error entry.1.1
        | none => .ok ()), seen) := by
  induction entries with
  | nil => rfl
  | cons entry entries ih =>
    rw [List.forM_cons, List.find?_cons]
    cases h : entry.1.2.any entry.2.contains with
    | true => exact run_bind_of_error (by rw [lookUp, if_pos h]; rfl)
    | false => rw [run_bind_of_ok (by rw [lookUp, if_neg (by simp [h])]; rfl), ih]

theorem modify_append_cons (f : α → α) (before : List α) (a : α) (after : List α) :
    (before ++ a :: after).modify before.length f = before ++ f a :: after := by
  induction before with
  | nil => rfl
  | cons b before ih => simpa using ih

theorem run_putText (text : α → Option String) (taken : α → List String) (as : List α)
    (before : List (List String)) :
    (forM ((as.map text).zipIdx before.length) putText).run.run (before ++ as.map taken) =
      (.ok (), before ++ as.map fun a => withText (text a) (taken a)) := by
  -- The sets of `before` are written already, so that the position of the next one is their number.
  induction as generalizing before with
  | nil => rfl
  | cons a as ih =>
    have hput : (putText (text a, before.length)).run.run (before ++ taken a :: as.map taken) =
        (.ok (), before ++ withText (text a) (taken a) :: as.map taken) := by
      rw [← modify_append_cons]
      rfl
    rw [List.map_cons, List.map_cons, List.map_cons, List.zipIdx_cons, List.forM_cons,
      run_bind_of_ok hput]
    simpa using ih (before ++ [withText (text a) (taken a)])

end Runs

theorem withText_keyOf? {c : KeyColumn} (h : c.isTaken row = false) :
    withText (KeyColumn.keyOf? c.plan.fields row) c.taken = (c.add row).taken := by
  cases hrow : KeyColumn.keyOf? c.plan.fields row with
  | none => simp [withText, KeyColumn.add, hrow]
  | some text =>
    have hnew : text ∉ c.taken := by simpa [KeyColumn.isTaken, hrow] using h
    simp [withText, KeyColumn.add, hrow, List.insert_of_not_mem hnew]

def entryOf (row : List Value) (c : KeyColumn) : (KeyPlan × Option String) × List String :=
  ((c.plan, KeyColumn.keyOf? c.plan.fields row), c.taken)

theorem run_insertInPlace_columns : (insertInPlace t.plans row).run.run t.sets =
    (do forM (t.columns.map (entryOf row)) lookUp
        forM (t.columns.map fun c => KeyColumn.keyOf? c.plan.fields row).zipIdx putText :
          InPlace Unit).run.run
      t.sets := by
  have htexts : (t.plans.map fun k => KeyColumn.keyOf? k.fields row) =
      t.columns.map fun c => KeyColumn.keyOf? c.plan.fields row := List.map_map
  have hentries : (t.plans.zip (t.plans.map fun k => KeyColumn.keyOf? k.fields row)).zip t.sets =
      t.columns.map (entryOf row) := by
    rw [htexts, plans, sets, List.zip_map', List.zip_map']
    rfl
  rw [← hentries, ← htexts]
  rfl

theorem run_lookUp_columns (t : KeyTracker) (row : List Value) :
    (forM (t.columns.map (entryOf row)) lookUp).run.run t.sets =
      ((t.insert row).map fun _ => (), t.sets) := by
  have hfind : ((t.columns.map (entryOf row)).find? fun e => e.1.2.any e.2.contains) =
      (t.columns.find? fun c => c.isTaken row).map (entryOf row) := List.find?_map
  rw [run_lookUp, hfind, insert, conflict?]
  cases t.columns.find? fun c => c.isTaken row <;> rfl

/-- Insertion in place answers as a tracker does, and leaves the sets of the tracker after the
attempt. -/
theorem run_insertInPlace : (insertInPlace t.plans row).run.run t.sets =
    ((t.insert row).map fun _ => (), (t.attempt row).sets) := by
  have hlook := run_lookUp_columns t row
  rw [run_insertInPlace_columns]
  cases hinsert : t.insert row with
  | error k =>
    rw [hinsert] at hlook
    rw [run_bind_of_error hlook, attempt_of_error hinsert]
    rfl
  | ok next =>
    obtain ⟨hfree, rfl⟩ := insert_eq_ok.mp hinsert
    have hadd : (t.columns.map fun c => withText (KeyColumn.keyOf? c.plan.fields row) c.taken) =
        t.columns.map fun c => (c.add row).taken :=
      List.map_congr_left fun c hc => withText_keyOf? (hfree c hc)
    have hput := run_putText (fun c => KeyColumn.keyOf? c.plan.fields row) KeyColumn.taken t.columns
      []
    rw [hinsert] at hlook
    rw [run_bind_of_ok hlook, attempt_of_ok hinsert, sets, sets, List.map_map]
    exact hput.trans (congrArg _ hadd)

theorem plans_attempt : (t.attempt row).plans = t.plans := by
  cases hinsert : t.insert row with
  | error k => rw [attempt_of_error hinsert]
  | ok next =>
    obtain ⟨-, rfl⟩ := insert_eq_ok.mp hinsert
    rw [attempt_of_ok hinsert, plans, plans, List.map_map]
    rfl

theorem foldl_insertInPlace (t : KeyTracker) (rows : List (List Value)) :
    rows.foldl (fun seen row => ((insertInPlace t.plans row).run.run seen).2) t.sets =
      (rows.foldl attempt t).sets := by
  induction rows generalizing t with
  | nil => rfl
  | cons row rest ih =>
    rw [List.foldl_cons, List.foldl_cons, run_insertInPlace, ← ih, plans_attempt]

theorem texts_columns_ofRows :
    (ofRows keys rows).columns.map KeyColumn.texts = keys.map fun k => k.textsOf rows := by
  simp [ofRows, KeyColumn.texts_ofRows]

theorem plans_ofRows : (ofRows keys rows).plans = keys := by
  rw [plans, ofRows, List.map_map]
  exact List.map_id keys

theorem sets_ofRows_nil : (ofRows keys []).sets = keys.map fun _ => [] := by
  rw [sets, ofRows, List.map_map]
  rfl

theorem nodup_foldl_attempt (h : ∀ c ∈ t.columns, c.taken.Nodup) :
    ∀ c ∈ (rows.foldl attempt t).columns, c.taken.Nodup := by
  induction rows generalizing t with
  | nil => exact h
  | cons row rest ih => exact ih (nodup_attempt h)

/-- What a tracker makes of the rows that come next, when it has accepted given rows. -/
structure Tracks (keys : List KeyPlan) (done : List (List Value)) (t : KeyTracker) : Prop where
  plans : t.plans = keys
  texts : t.columns.map KeyColumn.texts = keys.map fun k => k.textsOf done
  nodup : ∀ c ∈ t.columns, c.taken.Nodup
  refuses : ∀ row k, t.insert row = .error k ↔ t.conflict? row = some k
  first : ∀ row k, t.conflict? row = some k ↔ IsFirstMet keys done row k
  keeps : ∀ row k, t.insert row = .error k → t.attempt row = t
  adds : ∀ row next, t.insert row = .ok next → t.attempt row = next ∧
    next.columns.map KeyColumn.texts = keys.map fun k => k.textsOf done ∪ k.textsOf [row]
  persists : ∀ row (more : List (List Value)),
    (t.conflict? row).isSome → ((more.foldl attempt t).conflict? row).isSome
  conflictIn : ∀ row, conflictIn? keys t.sets row = t.conflict? row
  inPlace : ∀ row, (insertInPlace keys row).run.run t.sets =
    ((t.insert row).map fun _ => (), (t.attempt row).sets)

theorem tracks_ofRows (hnodup : ∀ c ∈ (ofRows keys done).columns, c.taken.Nodup) :
    Tracks keys done (ofRows keys done) where
  plans := plans_ofRows
  texts := texts_columns_ofRows
  nodup := hnodup
  refuses _ _ := insert_eq_error
  first _ _ := conflict?_ofRows_eq_some_iff
  keeps _ _ := attempt_of_error
  adds row next h := by
    refine ⟨attempt_of_ok h, ?_⟩
    rw [(insert_ofRows_eq_ok.mp h).2, texts_columns_ofRows]
    simp only [KeyPlan.textsOf_append]
  persists row more h := by
    obtain ⟨k, hk, hmeets⟩ := isSome_conflict?_ofRows.mp h
    rw [foldl_attempt_ofRows, isSome_conflict?_ofRows]
    exact ⟨k, hk, hmeets.append _⟩
  conflictIn row := by rw [← conflictIn?_plans_sets, plans_ofRows]
  inPlace row := by rw [← run_insertInPlace, plans_ofRows]

/-- After rows are tried one after the other, the texts that are taken in each key are those of the
rows that were accepted. A row is refused with the first key in which it has one of these, and
nothing is taken for it then. Look-ups and writes that go over the keys and their sets one after the
other come to the same. -/
theorem tracks_accepted (keys : List KeyPlan) (rows : List (List Value)) :
    Tracks keys ((ofKeys keys).accepted rows) (rows.foldl attempt (ofKeys keys)) ∧
      rows.foldl (fun seen row => ((insertInPlace keys row).run.run seen).2)
          (keys.map fun _ => []) =
        (rows.foldl attempt (ofKeys keys)).sets := by
  have hstart : ofKeys keys = ofRows keys [] := rfl
  have hnodup : ∀ c ∈ (rows.foldl attempt (ofKeys keys)).columns, c.taken.Nodup :=
    nodup_foldl_attempt (by simp [ofKeys])
  have hinPlace := foldl_insertInPlace (ofRows keys []) rows
  rw [plans_ofRows, sets_ofRows_nil, ← hstart] at hinPlace
  refine ⟨?_, hinPlace⟩
  rw [hstart, foldl_attempt_ofRows, List.nil_append] at hnodup ⊢
  exact tracks_ofRows hnodup

/-- A row that is refused for its code does not take its shelf and place. -/
theorem tracks_accepted_shelf : let keys := [shelfKey, ⟨"unique(code)", [2]⟩]
    let t := [[.text "a", .int 1, .null], [.text "b", .int 1, .text "x"]].foldl attempt
      (ofKeys keys)
    (t.attempt [.text "c", .int 1, .text "x"]).conflict? [.text "c", .int 1, .null] = none ∧
      IsFirstMet keys [[.text "a", .int 1, .null], [.text "b", .int 1, .text "x"]]
        [.text "c", .int 1, .text "x"] ⟨"unique(code)", [2]⟩ := by
  intro keys t
  have htracks := (tracks_accepted keys [[.text "a", .int 1, .null],
    [.text "b", .int 1, .text "x"]]).1
  have hconflict : t.conflict? [.text "c", .int 1, .text "x"] = some ⟨"unique(code)", [2]⟩ := by
    decide +kernel
  rw [htracks.keeps _ _ ((htracks.refuses _ _).mpr hconflict)]
  exact ⟨by decide +kernel, (htracks.first _ _).mp hconflict⟩

end KeyTracker

end Fixtures.Generation
