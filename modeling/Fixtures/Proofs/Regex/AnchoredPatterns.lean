import Fixtures.Regex.Sample
import Mathlib.Data.List.Infix

namespace Fixtures.Regex

namespace Pattern

variable {p q : Pattern} {ps qs : List Pattern}

/-- A pattern that is an anchor, or has one among its parts or its alternatives. -/
inductive Anchored : Pattern → Prop
  | look (condition : Look) : Anchored (.look condition)
  | concatenation {p : Pattern} {ps : List Pattern} : p ∈ ps → Anchored p →
    Anchored (.concatenation ps)
  | alternatives {p : Pattern} {ps : List Pattern} : p ∈ ps → Anchored p →
    Anchored (.alternatives ps)

mutual

theorem eq_of_beq (p q : Pattern) (h : beq p q = true) : p = q := by
  cases p <;> cases q <;> simp_all [beq]
  case repetition => exact eq_of_beq _ _ h.2
  case group => exact eq_of_beq _ _ h.2
  case concatenation => exact eq_of_beqAll _ _ h
  case alternatives => exact eq_of_beqAll _ _ h

theorem eq_of_beqAll (ps qs : List Pattern) (h : beqAll ps qs = true) : ps = qs := by
  match ps, qs, h with
  | [], [], _ => rfl
  | p :: ps, q :: qs, h =>
    rw [beqAll, Bool.and_eq_true] at h
    rw [eq_of_beq p q h.1, eq_of_beqAll ps qs h.2]

end

theorem Anchored.exists_parts (h : Anchored p) : ∃ q ∈ p.parts, Anchored q := by
  cases h with
  | look l => exact ⟨_, List.mem_singleton_self _, .look l⟩
  | concatenation hp h => exact ⟨_, hp, h⟩
  | alternatives hp h => exact ⟨_, List.mem_singleton_self _, .alternatives hp h⟩

theorem Anchored.exists_choices (h : Anchored p) : ∃ q ∈ p.choices, Anchored q := by
  cases h with
  | look l => exact ⟨_, List.mem_singleton_self _, .look l⟩
  | concatenation hp h => exact ⟨_, List.mem_singleton_self _, .concatenation hp h⟩
  | alternatives hp h => exact ⟨_, hp, h⟩

theorem Anchored.mem_of_mem_cons (h : Anchored p) (hp : p ∈ q :: ps) (hq : ¬ Anchored q) :
    p ∈ ps := by
  refine (List.mem_cons.mp hp).resolve_left ?_
  rintro rfl
  exact hq h

theorem mem_joinLiterals (hp : p ∈ ps) (h : Anchored p) : p ∈ joinLiterals ps := by
  induction ps using joinLiterals.induct with
  | case1 => exact hp
  | case2 rest ih =>
    rw [joinLiterals]
    exact ih (h.mem_of_mem_cons hp nofun)
  | case3 s rest t rest' heq ih =>
    have hmem := ih (h.mem_of_mem_cons hp nofun)
    rw [heq] at hmem
    rw [joinLiterals, heq]
    exact List.mem_cons_of_mem _ (h.mem_of_mem_cons hmem nofun)
  | case4 s rest hrest ih =>
    rw [joinLiterals]
    split
    · next heq => exact absurd heq (hrest _ _)
    · exact List.mem_cons_of_mem _ (ih (h.mem_of_mem_cons hp nofun))
  | case5 q rest hempty hliteral ih =>
    rw [joinLiterals]
    · obtain rfl | hmem := List.mem_cons.mp hp
      · exact List.mem_cons_self
      · exact List.mem_cons_of_mem _ (ih hmem)
    · exact hempty
    · exact hliteral

theorem Anchored.concat (hp : p ∈ ps) (h : Anchored p) : Anchored (concat ps) := by
  obtain ⟨q, hq, hanchored⟩ := h.exists_parts
  have hmem : q ∈ joinLiterals (ps.flatMap parts) :=
    mem_joinLiterals (List.mem_flatMap.mpr ⟨p, hp, hq⟩) hanchored
  unfold Pattern.concat
  split
  · next heq => simp [heq] at hmem
  · next heq =>
    rw [heq, List.mem_singleton] at hmem
    exact hmem ▸ hanchored
  · exact .concatenation hmem hanchored

theorem singleChars?_eq_none (hp : p ∈ ps) (h : Anchored p) : singleChars? ps = none := by
  induction ps using singleChars?.induct with
  | case1 => cases hp
  | case2 c rest ih =>
    rw [singleChars?, ih (h.mem_of_mem_cons hp nofun), Option.map_none]
  | case3 ps hnil hcons => rw [singleChars?] <;> assumption

theorem sets?_eq_none (hp : p ∈ ps) (h : Anchored p) : sets? ps = none := by
  induction ps using sets?.induct with
  | case1 => cases hp
  | case2 s rest ih =>
    rw [sets?, ih (h.mem_of_mem_cons hp nofun), Option.map_none]
  | case3 ps hnil hcons => rw [sets?] <;> assumption

theorem commonPart_prefix (ps qs : List Pattern) :
    commonPart ps qs <+: ps ∧ commonPart ps qs <+: qs := by
  induction ps generalizing qs with
  | nil => exact ⟨List.nil_prefix, List.nil_prefix⟩
  | cons p ps ih =>
    cases qs with
    | nil => exact ⟨List.nil_prefix, List.nil_prefix⟩
    | cons q qs =>
      rw [commonPart]
      split
      · next heq =>
        obtain rfl := eq_of_beq p q heq
        exact ⟨(List.prefix_cons_inj p).mpr (ih qs).1, (List.prefix_cons_inj p).mpr (ih qs).2⟩
      · exact ⟨List.nil_prefix, List.nil_prefix⟩

theorem foldl_prefix (f : List Pattern → Pattern → List Pattern)
    (hf : ∀ common p, f common p <+: common ∧ f common p <+: p.parts) (ps start : List Pattern) :
    ∀ p ∈ Pattern.concatenation start :: ps, ps.foldl f start <+: p.parts := by
  induction ps generalizing start with
  | nil =>
    intro p hp
    rw [List.mem_singleton.mp hp]
    exact List.prefix_rfl
  | cons q ps ih =>
    have hnext : ps.foldl f (f start q) <+: f start q := ih _ _ List.mem_cons_self
    intro p hp
    obtain rfl | hp := List.mem_cons.mp hp
    · exact hnext.trans (hf start q).1
    · obtain rfl | hp := List.mem_cons.mp hp
      · exact hnext.trans (hf start p).2
      · exact ih _ p (List.mem_cons_of_mem _ hp)

theorem commonStart_prefix (hp : p ∈ ps) : commonStart ps <+: p.parts := by
  unfold commonStart
  split
  · cases hp
  · next qs rest =>
    refine foldl_prefix _ (fun common p => ?_) rest qs p hp
    cases p with
    | concatenation qs => exact commonPart_prefix common qs
    | _ => exact ⟨List.nil_prefix, List.nil_prefix⟩
  · exact List.nil_prefix

/-- An anchor among the alternatives stays when what they begin with is put in front of them. -/
theorem Anchored.lifted (hp : p ∈ ps) (h : Anchored p) :
    (∃ q ∈ commonStart ps, Anchored q) ∨
      ∃ q ∈ ps.map fun p => Pattern.concat (p.parts.drop (commonStart ps).length), Anchored q := by
  obtain ⟨q, hq, hanchored⟩ := h.exists_parts
  obtain ⟨rest, hrest⟩ := commonStart_prefix hp
  rw [← hrest, List.mem_append] at hq
  obtain hq | hq := hq
  · exact .inl ⟨q, hq, hanchored⟩
  · refine .inr ⟨_, List.mem_map_of_mem hp, ?_⟩
    rw [← hrest, List.drop_left]
    exact hanchored.concat hq

theorem Anchored.alternationWithin (depth : Nat) (hp : p ∈ ps) (h : Anchored p) :
    Anchored (alternationWithin depth ps) := by
  fun_induction Pattern.alternationWithin depth ps generalizing p
  all_goals
    obtain ⟨q, hq, hanchored⟩ := h.exists_choices
    have hmem := List.mem_flatMap.mpr ⟨p, hp, hq⟩
  case case1 hnil => exact absurd hmem (hnil ▸ List.not_mem_nil)
  case case2 _ _ q' hone =>
    rw [hone, List.mem_singleton] at hmem
    exact hmem ▸ hanchored
  case case3 hchars => exact absurd hchars (by rw [singleChars?_eq_none hmem hanchored]; nofun)
  case case4 hsets _ => exact absurd hsets (by rw [sets?_eq_none hmem hanchored]; nofun)
  case case5 | case6 => exact .alternatives hmem hanchored
  case case7 ih =>
    obtain ⟨q', hq', hlifted⟩ | ⟨q', hq', hlifted⟩ := hanchored.lifted hmem
    · exact hlifted.concat (List.mem_append_left _ hq')
    · exact (ih hq' hlifted).concat (List.mem_append_right _ (List.mem_singleton_self _))

theorem Anchored.alternation (hp : p ∈ ps) (h : Anchored p) : Anchored (alternation ps) :=
  h.alternationWithin _ hp

end Pattern

namespace Sampler

theorem ofPatterns_of_error {maxRepeat : Nat} {p : Pattern} {ps : List Pattern} {e : SampleError}
    (hp : p ∈ ps)
    (h : ofPattern maxRepeat p = .error e) : ∃ e, ofPatterns maxRepeat ps = .error e := by
  induction ps with
  | nil => cases hp
  | cons q ps ih =>
    rw [ofPatterns]
    cases hq : ofPattern maxRepeat q with
    | error e => exact ⟨e, rfl⟩
    | ok s =>
      obtain rfl | hp := List.mem_cons.mp hp
      · exact absurd (h.symm.trans hq) nofun
      · obtain ⟨e, he⟩ := ih hp
        exact ⟨e, by rw [he]; rfl⟩

theorem ofPattern_of_anchored (maxRepeat : Nat) {p : Pattern} (h : p.Anchored) :
    ∃ e, ofPattern maxRepeat p = .error e := by
  induction h with
  | look condition => exact ⟨.anchor, by rw [ofPattern]⟩
  | concatenation hp _ ih =>
    obtain ⟨e, he⟩ := ih
    obtain ⟨e, he⟩ := ofPatterns_of_error hp he
    exact ⟨e, by rw [ofPattern, he]; rfl⟩
  | alternatives hp _ ih =>
    obtain ⟨e, he⟩ := ih
    obtain ⟨e, he⟩ := ofPatterns_of_error hp he
    exact ⟨e, by rw [ofPattern, he]; rfl⟩

end Sampler

end Fixtures.Regex
