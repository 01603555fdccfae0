import Fixtures.Contract.Schema
import Fixtures.Proofs.Contract.Describing
import Fixtures.Schema.Encode

namespace Fixtures.Contract

open Json

section

variable {α β γ : Type} {c c' : Contract} {decode : Json → Option α} {encode : α → Json}
  {rule : NumberFormat → Json → Bool} {members members' : List (String × Contract)}
  {required required' : List String} {name : String} {ms : List (String × Json)} {j : Json}

structure Holds (rule : NumberFormat → Json → Bool) (members : List (String × Contract))
    (required : List String) (ms : List (String × Json)) : Prop where
  required : ∀ name ∈ required, (lookup? name ms).isSome = true
  members : ∀ m ∈ members, ∀ v, lookup? m.1 ms = some v → m.2.meets rule v = true

theorem meetsMembers_iff : meetsMembers rule members j = true ↔
    ∀ m ∈ members, ∀ v, j.get? m.1 = some v → m.2.meets rule v = true := by
  induction members with
  | nil => simp [meetsMembers]
  | cons m members ih =>
    rw [meetsMembers, Bool.and_eq_true, ih, List.forall_mem_cons]
    exact and_congr_left' (Option.all_eq_true ..)

theorem meets_record :
    (record members required).meets rule (.object ms) = true ↔ Holds rule members required ms := by
  rw [meets, Bool.and_eq_true, Bool.and_eq_true, meetsMembers_iff, List.all_eq_true]
  exact ⟨fun h => ⟨h.1.2, h.2⟩, fun h => ⟨⟨rfl, h.required⟩, h.members⟩⟩

theorem exists_object_of_meets (h : (record members required).meets rule j = true) :
    ∃ ms, j = .object ms := by
  cases j with
  | object ms => exact ⟨ms, rfl⟩
  | _ => simp [meets, Kind.holds] at h

structure DescribesMembers (members : List (String × Contract)) (required : List String)
    (read : List (String × Json) → Option α) (write : α → List (String × Json)) : Prop where
  nodup : (members.map Prod.fst).Nodup
  keys : ∀ a, ((write a).map Prod.fst).Sublist (members.map Prod.fst)
  accepts : ∀ ms, Holds NumberFormat.bySign members required ms →
    ((read ms).isSome = true ↔ Holds NumberFormat.bySize members required ms)
  returns : ∀ ms a, (∀ m ∈ ms, m.2.isValue = true) → Holds NumberFormat.bySign members required ms →
    read ms = some a → ∀ ns,
      (∀ m ∈ members, lookup? m.1 ns = (lookup? m.1 (write a)).map inOrder) →
        Holds NumberFormat.bySign members required ns ∧ read ns = some a

theorem holds_required : Holds rule [(name, c)] [name] ms ↔
    ∃ v, lookup? name ms = some v ∧ c.meets rule v = true := by
  constructor
  · intro h
    obtain ⟨v, hv⟩ := Option.isSome_iff_exists.mp (h.required name List.mem_cons_self)
    exact ⟨v, hv, h.members _ List.mem_cons_self v hv⟩
  · rintro ⟨v, hv, hmeets⟩
    refine ⟨by simp [hv], List.forall_mem_singleton.mpr fun w hw => ?_⟩
    rw [hv] at hw
    exact Option.some.inj hw ▸ hmeets

theorem holds_optional : Holds rule [(name, c)] [] ms ↔
    ∀ v, lookup? name ms = some v → c.meets rule v = true :=
  ⟨fun h => h.members _ List.mem_cons_self, fun h => ⟨by simp, List.forall_mem_singleton.mpr h⟩⟩

theorem describes_required (h : Describes c decode encode) (name : String) :
    DescribesMembers [(name, c)] [name] (Json.required decode name)
      (fun a => [(name, encode a)]) := by
  refine ⟨by simp, fun a => .refl _, fun ms hms => ?_, fun ms a hvalues hms ha ns hns => ?_⟩
  · rw [holds_required] at hms ⊢
    obtain ⟨v, hv, hmeets⟩ := hms
    simp only [Json.required, hv, Option.bind_some, Option.some.injEq, exists_eq_left']
    exact h.accepts v hmeets
  · obtain ⟨v, hv, hmeets⟩ := holds_required.mp hms
    rw [Json.required, hv, Option.bind_some] at ha
    obtain ⟨hmet, hdecode, -⟩ := h.returns v a (hvalues _ (mem_of_lookup? hv)) hmeets ha
    have hn : lookup? name ns = some (encode a).inOrder := by
      simpa using hns (name, c) List.mem_cons_self
    exact ⟨holds_required.mpr ⟨_, hn, hmet⟩, by rw [Json.required, hn, Option.bind_some, hdecode]⟩

theorem describes_defaulted (h : Describes c decode encode) (name : String) {default : α}
    (hdefault : ∃ j, j.isValue = true ∧ c.meets NumberFormat.bySign j = true ∧
      decode j = some default) :
    DescribesMembers [(name, c)] [] (defaulted default decode name)
      (fun a => [(name, encode a)]) := by
  refine ⟨by simp, fun a => .refl _, fun ms hms => ?_, fun ms a hvalues hms ha ns hns => ?_⟩
  · rw [holds_optional] at hms ⊢
    unfold defaulted
    cases hv : lookup? name ms with
    | none => simp
    | some v => simpa using h.accepts v (hms v hv)
  · rw [holds_optional] at hms
    obtain ⟨v, hvalue, hmeets, hv⟩ : ∃ v, v.isValue = true ∧
        c.meets NumberFormat.bySign v = true ∧ decode v = some a := by
      unfold defaulted at ha
      cases hv : lookup? name ms with
      | none =>
        rw [hv] at ha
        cases ha
        exact hdefault
      | some v =>
        rw [hv] at ha
        exact ⟨v, hvalues _ (mem_of_lookup? hv), hms v hv, ha⟩
    obtain ⟨hmet, hdecode, -⟩ := h.returns v a hvalue hmeets hv
    have hn : lookup? name ns = some (encode a).inOrder := by
      simpa using hns (name, c) List.mem_cons_self
    refine ⟨holds_optional.mpr fun w hw => ?_, by rw [defaulted, hn]; exact hdecode⟩
    rw [hn] at hw
    exact Option.some.inj hw ▸ hmet

/-- A contract that takes null besides the values of another one. -/
structure OrNull (c' c : Contract) : Prop where
  null : ∀ rule, c'.meets rule .null = true
  other : ∀ rule j, j ≠ .null → c'.meets rule j = c.meets rule j

theorem orNull_integer (format : NumberFormat) :
    OrNull (.integerOrNull format) (.integer format) := by
  refine ⟨fun rule => rfl, fun rule j hj => ?_⟩
  cases j <;> simp_all [meets, Kind.holds]

theorem orNull_string : OrNull .stringOrNull .string := by
  refine ⟨fun rule => rfl, fun rule j hj => ?_⟩
  cases j <;> simp_all [meets, Kind.holds]

theorem orNull_orNull (c : Contract) : OrNull (orNull c) c := by
  refine ⟨fun rule => ?_, fun rule j hj => ?_⟩
  · simp [orNull, meets, countMet, Kind.holds]
  · have hnull : Kind.null.holds j = false := by cases j <;> simp_all [Kind.holds]
    cases hc : c.meets rule j <;> simp [orNull, meets, countMet, hnull, hc]

theorem nullable_of_ne_null (h : j ≠ .null) : nullable decode j = (decode j).map some := by
  cases j <;> simp_all [nullable]

theorem isSome_optional : (Json.optional decode name ms).isSome = true ↔
    ∀ v, lookup? name ms = some v → v ≠ .null → (decode v).isSome = true := by
  unfold Json.optional defaulted
  cases lookup? name ms with
  | none => simp
  | some v =>
    by_cases hne : v = .null
    · simp [hne, nullable]
    · simp [nullable_of_ne_null hne, hne]

theorem optional_eq_some {a : α} : Json.optional decode name ms = some (some a) ↔
    ∃ v, lookup? name ms = some v ∧ v ≠ .null ∧ decode v = some a := by
  unfold Json.optional defaulted
  cases lookup? name ms with
  | none => simp
  | some v =>
    by_cases hne : v = .null
    · simp [hne, nullable]
    · simp [nullable_of_ne_null hne, hne]

theorem holds_orNull (h : OrNull c' c) : Holds rule [(name, c')] [] ms ↔
    ∀ v, lookup? name ms = some v → v ≠ .null → c.meets rule v = true := by
  rw [holds_optional]
  refine forall₂_congr fun v _ => ⟨fun hv hne => h.other rule v hne ▸ hv, fun hv => ?_⟩
  by_cases hne : v = .null
  · rw [hne, h.null]
  · rw [h.other rule v hne, hv hne]

theorem describes_optional (h : Describes c decode encode) (hnull : OrNull c' c) (name : String) :
    DescribesMembers [(name, c')] [] (Json.optional decode name) (memberIf name encode) := by
  refine ⟨by simp, fun a => ?_, fun ms hms => ?_, fun ms a hvalues hms ha ns hns => ?_⟩
  · cases a with
    | none => exact List.nil_sublist _
    | some a => exact .refl _
  · rw [holds_orNull hnull] at hms ⊢
    rw [isSome_optional]
    exact forall₃_congr fun v hv hne => h.accepts v (hms v hv hne)
  · rw [holds_orNull hnull] at hms ⊢
    have hn := hns (name, c') List.mem_cons_self
    cases a with
    | none =>
      have hn : lookup? name ns = none := by simpa [memberIf] using hn
      exact ⟨by simp [hn], by rw [Json.optional, defaulted, hn]⟩
    | some a =>
      have hn : lookup? name ns = some (encode a).inOrder := by simpa [memberIf] using hn
      obtain ⟨v, hv, hne, hdecode⟩ := optional_eq_some.mp ha
      -- The value was not read from null, so it is not written as null and is there again.
      obtain ⟨hmet, hdecode, hpresent⟩ :=
        h.returns v a (hvalues _ (mem_of_lookup? hv)) (hms v hv hne) hdecode
      refine ⟨fun w hw _ => ?_, optional_eq_some.mpr ⟨_, hn, hpresent hne, hdecode⟩⟩
      rw [hn] at hw
      exact Option.some.inj hw ▸ hmet

def both (x : Option α) (y : Option β) : Option (α × β) :=
  x.bind fun a => y.map fun b => (a, b)

theorem bind_both {x : Option α} {y : Option β} {f : α × β → Option γ} :
    (both x y).bind f = x.bind fun a => y.bind fun b => f (a, b) := by
  cases x <;> cases y <;> rfl

theorem map_both {x : Option α} {y : Option β} {f : α × β → γ} :
    (both x y).map f = x.bind fun a => y.bind fun b => some (f (a, b)) := by
  cases x <;> cases y <;> rfl

theorem both_eq_some {x : Option α} {y : Option β} {p : α × β} :
    both x y = some p ↔ x = some p.1 ∧ y = some p.2 := by
  cases x <;> cases y <;> simp [both, Prod.ext_iff]

theorem isSome_both {x : Option α} {y : Option β} :
    (both x y).isSome = true ↔ x.isSome = true ∧ y.isSome = true := by
  cases x <;> cases y <;> simp [both]

theorem holds_append : Holds rule (members ++ members') (required ++ required') ms ↔
    Holds rule members required ms ∧ Holds rule members' required' ms := by
  constructor
  · intro h
    exact ⟨⟨fun n hn => h.required n (List.mem_append_left _ hn),
        fun m hm => h.members m (List.mem_append_left _ hm)⟩,
      ⟨fun n hn => h.required n (List.mem_append_right _ hn),
        fun m hm => h.members m (List.mem_append_right _ hm)⟩⟩
  · rintro ⟨h, h'⟩
    exact ⟨fun n hn => (List.mem_append.mp hn).elim (h.required n) (h'.required n),
      fun m hm => (List.mem_append.mp hm).elim (h.members m) (h'.members m)⟩

theorem DescribesMembers.lookup?_write {read : List (String × Json) → Option α}
    {write : α → List (String × Json)} (h : DescribesMembers members required read write) (a : α)
    (hname : name ∉ members.map Prod.fst) : lookup? name (write a) = none :=
  lookup?_eq_none.mpr fun hmem => hname ((h.keys a).subset hmem)

theorem DescribesMembers.and {read : List (String × Json) → Option α}
    {write : α → List (String × Json)} {read' : List (String × Json) → Option β}
    {write' : β → List (String × Json)} (h : DescribesMembers members required read write)
    (h' : DescribesMembers members' required' read' write')
    (hnodup : ((members ++ members').map Prod.fst).Nodup) :
    DescribesMembers (members ++ members') (required ++ required')
      (fun ms => both (read ms) (read' ms)) (fun p => write p.1 ++ write' p.2) := by
  have hdisjoint : ∀ n ∈ members.map Prod.fst, n ∉ members'.map Prod.fst := by
    rw [List.map_append] at hnodup
    exact fun n hn hn' => (List.nodup_append.mp hnodup).2.2 n hn n hn' rfl
  refine ⟨hnodup, fun p => ?_, fun ms hms => ?_, fun ms p hvalues hms hp ns hns => ?_⟩
  · rw [List.map_append, List.map_append]
    exact (h.keys p.1).append (h'.keys p.2)
  · rw [holds_append] at hms ⊢
    rw [isSome_both, h.accepts ms hms.1, h'.accepts ms hms.2]
  · obtain ⟨hms, hms'⟩ := holds_append.mp hms
    obtain ⟨ha, hb⟩ := both_eq_some.mp hp
    obtain ⟨hn, hread⟩ := h.returns ms p.1 hvalues hms ha ns fun m hm => by
      have hnone := h'.lookup?_write p.2 (hdisjoint m.1 (List.mem_map_of_mem hm))
      rw [hns m (List.mem_append_left _ hm), lookup?_append, hnone, Option.or_none]
    obtain ⟨hn', hread'⟩ := h'.returns ms p.2 hvalues hms' hb ns fun m hm => by
      have hnone := h.lookup?_write p.1 fun hmem => hdisjoint m.1 hmem (List.mem_map_of_mem hm)
      rw [hns m (List.mem_append_right _ hm), lookup?_append, hnone, Option.none_or]
    exact ⟨holds_append.mpr ⟨hn, hn'⟩, both_eq_some.mpr ⟨hread, hread'⟩⟩

/-- A contract without its notes. -/
@[simp]
def unnoted : Contract → Contract
  | .noted _ inner => inner.unnoted
  | c => c

@[simp]
theorem unnoted_described (text : String) : (c.described text).unnoted = c.unnoted := rfl

@[simp]
theorem unnoted_withDefault (value : Json) : (c.withDefault value).unnoted = c.unnoted := rfl

@[simp]
theorem unnoted_orNull : c.orNull.unnoted = c.orNull := rfl

@[simp]
theorem meets_unnoted : c.unnoted.meets rule j = c.meets rule j := by
  fun_induction unnoted c with
  | case1 notes inner ih => rw [ih, meets]
  | case2 c => rfl

theorem DescribesMembers.record {read : List (String × Json) → Option β}
    {write : β → List (String × Json)} (h : DescribesMembers members required read write)
    (hmembers : ∀ m, m ∈ members'.map (fun m => (m.1, m.2.unnoted)) ↔ m ∈ members)
    (hrequired : ∀ n, n ∈ required' ↔ n ∈ required) (make : β → α)
    (hdecode : ∀ ms, Holds NumberFormat.bySign members required ms →
      decode (.object ms) = (read ms).map make)
    (hencode : ∀ b, encode (make b) = .object (write b)) :
    Describes (.record members' required') decode encode := by
  have hholds : ∀ rule ms, (Contract.record members' required').meets rule (.object ms) = true ↔
      Holds rule members required ms := by
    intro rule ms
    rw [meets_record]
    -- Each member has its own key, so neither the order nor the notes of members count.
    constructor
    · intro hms
      refine ⟨fun n hn => hms.required n ((hrequired n).mpr hn), fun m hm v hv => ?_⟩
      obtain ⟨m, hm', rfl⟩ := List.mem_map.mp ((hmembers m).mpr hm)
      rw [meets_unnoted]
      exact hms.members m hm' v hv
    · intro hms
      refine ⟨fun n hn => hms.required n ((hrequired n).mp hn), fun m hm v hv => ?_⟩
      rw [← meets_unnoted]
      exact hms.members _ ((hmembers _).mp (List.mem_map_of_mem hm)) v hv
  refine ⟨fun j hj => ?_, fun j a hvalue hj ha => ?_⟩
  · obtain ⟨ms, rfl⟩ := exists_object_of_meets hj
    rw [hholds] at hj ⊢
    rw [hdecode ms hj, Option.isSome_map, h.accepts ms hj]
  · obtain ⟨ms, rfl⟩ := exists_object_of_meets hj
    have hms := (hholds _ _).mp hj
    rw [hdecode ms hms] at ha
    obtain ⟨b, hb, rfl⟩ := Option.map_eq_some_iff.mp ha
    obtain ⟨ns, hobject, hlookup⟩ := exists_inOrder_object ((h.keys b).nodup h.nodup)
    obtain ⟨hns, hread⟩ := h.returns ms b (isValue_object.mp hvalue).2 hms hb ns fun m _ =>
      hlookup m.1
    rw [hencode b, hobject]
    refine ⟨(hholds _ _).mpr hns, ?_, by simp⟩
    rw [hdecode ns hns, hread]
    rfl

end

section

variable {α β : Type} {c c' : Contract} {decode : Json → Option α} {encode : α → Json}
    {kind : String}
  {rule : NumberFormat → Json → Bool} {members members' : List (String × Contract)}
  {required required' : List String} {ms : List (String × Json)} {j : Json}

theorem tagged?_object (h : lookup? "kind" ms = some (.string kind)) :
    tagged? (.object ms) = some (kind, .object ms) := by
  rw [tagged?, Json.required, h]
  rfl

theorem describes_kind (kind : String) : Describes (.word [kind])
    (decodeName (fun _ : Unit => kind) [()]) (fun _ => .string kind) := by
  have hnodup : ([()].map fun _ => kind).Nodup := by simp
  exact describes_word (by simp) hnodup

theorem Holds.lookup?_kind
    (h : Holds rule (("kind", .word [kind]) :: members) ("kind" :: required) ms) :
    lookup? "kind" ms = some (.string kind) := by
  obtain ⟨v, hv⟩ := Option.isSome_iff_exists.mp (h.required "kind" List.mem_cons_self)
  have hmeets := h.members ("kind", .word [kind]) List.mem_cons_self v hv
  cases v with
  | string s =>
    have hs : s = kind := by simpa [meets, string?] using hmeets
    rw [hv, hs]
  | _ => simp [meets, string?] at hmeets

theorem DescribesMembers.kinded {read : List (String × Json) → Option β}
    {write : β → List (String × Json)}
    (h : DescribesMembers members required read write) (hkind : "kind" ∉ members.map Prod.fst)
    (hmembers : ∀ m, m ∈ members'.map (fun m => (m.1, m.2.unnoted)) ↔ m ∈ members)
    (hrequired : ∀ n, n ∈ required' ↔ n ∈ "kind" :: required) (make : β → α)
    (hdecode : ∀ ms, lookup? "kind" ms = some (.string kind) →
      decode (.object ms) = (read ms).map make)
    (hencode : ∀ b, encode (make b) = .object (("kind", .string kind) :: write b)) :
    Describes (.kinded kind members' required') decode encode := by
  have htagged := (describes_required (describes_kind kind) "kind").and h
    (by simpa using ⟨by simpa using hkind, h.nodup⟩)
  refine htagged.record (fun m => ?_) hrequired (fun p => make p.2) (fun ms hms => ?_)
    (fun p => hencode p.2)
  · rw [List.map_cons, List.mem_cons, List.singleton_append, List.mem_cons, hmembers]
    rfl
  · have htag := hms.lookup?_kind
    rw [hdecode ms htag]
    simp [both, Json.required, htag, decodeName]
    rfl

def kind? : Contract → Option String
  | .noted _ inner => inner.kind?
  | .record ((name, .word [kind]) :: _) required =>
    if name = "kind" ∧ "kind" ∈ required then some kind else none
  | _ => none

theorem get?_of_kind? (h : c.kind? = some kind) (hj : c.meets rule j = true) :
    j.get? "kind" = some (.string kind) := by
  fun_induction kind? c with
  | case1 notes inner ih => exact ih h hj
  | case2 name own members required hname =>
    cases h
    obtain ⟨rfl, hrequired⟩ := hname
    obtain ⟨ms, rfl⟩ := exists_object_of_meets hj
    have hms := meets_record.mp hj
    have hown : Holds rule [("kind", .word [kind])] ["kind"] ms :=
      ⟨by simpa using hms.required "kind" hrequired,
        by simpa using hms.members _ List.mem_cons_self⟩
    exact hown.lookup?_kind
  | case3 => cases h
  | case4 => cases h

section Options

variable {options : List Contract}

theorem eq_of_meets {rule' : NumberFormat → Json → Bool}
    (hkinds : ∀ c ∈ options, c.kind?.isSome = true) (hnodup : (options.map kind?).Nodup)
    (hc : c ∈ options) (hc' : c' ∈ options) (hj : c.meets rule j = true)
    (hj' : c'.meets rule' j = true) : c = c' := by
  obtain ⟨kind, hkind⟩ := Option.isSome_iff_exists.mp (hkinds c hc)
  obtain ⟨kind', hkind'⟩ := Option.isSome_iff_exists.mp (hkinds c' hc')
  have hsame : kind = kind' := by
    have htag := get?_of_kind? hkind hj
    rw [get?_of_kind? hkind' hj'] at htag
    injection htag with htag
    injection htag with htag
    exact htag.symm
  have hfind := find?_of_mem_of_nodup hnodup hc
  rw [hkind, hsame, ← hkind', find?_of_mem_of_nodup hnodup hc'] at hfind
  exact (Option.some.inj hfind).symm

theorem countMet_eq_zero : countMet rule options j = 0 ↔ ∀ c ∈ options, c.meets rule j = false := by
  induction options with
  | nil => simp [countMet]
  | cons c options ih =>
    rw [countMet, List.forall_mem_cons, ← ih]
    cases c.meets rule j <;> simp

theorem countMet_eq_one (hkinds : ∀ c ∈ options, c.kind?.isSome = true)
    (hnodup : (options.map kind?).Nodup) :
    countMet rule options j = 1 ↔ ∃ c ∈ options, c.meets rule j = true := by
  induction options with
  | nil => simp [countMet]
  | cons c options ih =>
    have hrest := ih (List.forall_mem_cons.mp hkinds).2 (List.nodup_cons.mp hnodup).2
    rw [countMet]
    by_cases hc : c.meets rule j = true
    · have hnone : countMet rule options j = 0 := countMet_eq_zero.mpr fun c' hc' => by
        refine Bool.eq_false_iff.mpr fun hc'' => ?_
        have hsame := eq_of_meets hkinds hnodup List.mem_cons_self
          (List.mem_cons_of_mem _ hc') hc hc''
        exact (List.nodup_cons.mp hnodup).1 (hsame ▸ List.mem_map_of_mem hc')
      simp [hc, hnone]
    · simpa [hc] using hrest

theorem Describes.one (h : ∀ c ∈ options, Describes c decode encode)
    (hkinds : ∀ c ∈ options, c.kind?.isSome = true) (hnodup : (options.map kind?).Nodup) :
    Describes (.one options) decode encode := by
  have hone : ∀ rule j, (Contract.one options).meets rule j = true ↔
      ∃ c ∈ options, c.meets rule j = true := by
    intro rule j
    rw [meets, decide_eq_true_eq, countMet_eq_one hkinds hnodup]
  refine ⟨fun j hj => ?_, fun j a hvalue hj ha => ?_⟩
  · rw [hone] at hj ⊢
    obtain ⟨c, hc, hmeets⟩ := hj
    rw [(h c hc).accepts j hmeets]
    refine ⟨fun hsize => ⟨c, hc, hsize⟩, fun ⟨c', hc', hsize⟩ => ?_⟩
    exact eq_of_meets hkinds hnodup hc hc' hmeets hsize ▸ hsize
  · rw [hone] at hj ⊢
    obtain ⟨c, hc, hmeets⟩ := hj
    obtain ⟨hmet, hrest⟩ := (h c hc).returns j a hvalue hmeets ha
    exact ⟨⟨c, hc, hmet⟩, hrest⟩

end Options

end

end Fixtures.Contract
