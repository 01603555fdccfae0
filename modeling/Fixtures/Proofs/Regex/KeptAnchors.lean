import Fixtures.Proofs.Regex.AnchoredPatterns
import Fixtures.Proofs.Regex.Readers

namespace Fixtures.Regex

open Std.Do

set_option mvcgen.warning false

variable {α : Type} {r rest cs : List Char} {b c : Char}

def closingBackslashes (cs : List Char) : Nat :=
  (cs.reverse.takeWhile fun c => c = '\\').length

theorem closingBackslashes_nil : closingBackslashes [] = 0 :=
  rfl

theorem closingBackslashes_concat (cs : List Char) (c : Char) :
    closingBackslashes (cs ++ [c]) = if c = '\\' then closingBackslashes cs + 1 else 0 := by
  rw [closingBackslashes, List.reverse_concat, List.takeWhile_cons]
  split <;> simp_all [closingBackslashes]

theorem closingBackslashes_eq_zero_iff : closingBackslashes cs = 0 ↔ cs.getLast? ≠ some '\\' := by
  induction cs using List.reverseRecOn with
  | nil => simp [closingBackslashes_nil]
  | append_singleton cs c =>
    rw [closingBackslashes_concat, List.getLast?_concat]
    split <;> simp_all

theorem closingBackslashes_append_cons (as bs : List Char) (hc : c ≠ '\\') :
    closingBackslashes (as ++ c :: bs) = closingBackslashes bs := by
  induction bs using List.reverseRecOn with
  | nil => rw [closingBackslashes_concat, if_neg hc, closingBackslashes_nil]
  | append_singleton bs d ih =>
    rw [← List.cons_append, ← List.append_assoc, closingBackslashes_concat,
      closingBackslashes_concat, ih]

theorem closingBackslashes_cons (hc : c ≠ '\\') (cs : List Char) :
    closingBackslashes (c :: cs) = closingBackslashes cs :=
  closingBackslashes_append_cons [] cs hc

theorem closingBackslashes_pair_mod_two (cs : List Char) :
    closingBackslashes ('\\' :: '\\' :: cs) % 2 = closingBackslashes cs % 2 := by
  induction cs using List.reverseRecOn with
  | nil => rfl
  | append_singleton cs c ih =>
    rw [← List.cons_append, ← List.cons_append, closingBackslashes_concat,
      closingBackslashes_concat]
    split
    · omega
    · rfl

def endsInAnchor (cs : List Char) : Bool :=
  cs.getLast? = some '$' && closingBackslashes cs.dropLast % 2 = 0

theorem endsInAnchor_concat (body : List Char) :
    endsInAnchor (body ++ ['$']) = true ↔ closingBackslashes body % 2 = 0 := by
  simp [endsInAnchor]

/-- A text that ends in an anchor right after backslashes; as their number is even, they escape each
other. -/
def EndsAfterPairs (cs : List Char) : Prop :=
  ∃ body, cs = body ++ ['$'] ∧ closingBackslashes body % 2 = 0 ∧ closingBackslashes body ≠ 0

theorem endsAfterPairs_iff :
    EndsAfterPairs cs ↔ endsInAnchor cs = true ∧ closingBackslashes cs.dropLast ≠ 0 := by
  constructor
  · rintro ⟨body, rfl, heven, hne⟩
    exact ⟨(endsInAnchor_concat body).mpr heven, by rwa [List.dropLast_concat]⟩
  · rintro ⟨hanchor, hne⟩
    simp only [endsInAnchor, Bool.and_eq_true, decide_eq_true_eq] at hanchor
    obtain ⟨body, rfl⟩ := List.getLast?_eq_some_iff.mp hanchor.1
    rw [List.dropLast_concat] at hanchor hne
    exact ⟨body, rfl, hanchor.2, hne⟩

instance : DecidablePred EndsAfterPairs := fun _ => decidable_of_iff' _ endsAfterPairs_iff

theorem endsAfterPairs_cons (hc : c ≠ '\\') : EndsAfterPairs (c :: cs) ↔ EndsAfterPairs cs := by
  constructor
  · rintro ⟨body, hbody, heven, hne⟩
    obtain ⟨rfl, -⟩ | ⟨body, rfl, rfl⟩ := List.cons_eq_append_iff.mp hbody
    · exact absurd closingBackslashes_nil hne
    · rw [closingBackslashes_cons hc] at heven hne
      exact ⟨body, rfl, heven, hne⟩
  · rintro ⟨body, rfl, heven, hne⟩
    rw [← closingBackslashes_cons hc] at heven hne
    exact ⟨c :: body, rfl, heven, hne⟩

namespace Parser

/-- What is left to read ends in an anchor that neither a backslash nor a comment hides: it stands
alone or comes after backslashes that escape each other. -/
structure AnchorAhead (rest : List Char) : Prop where
  visible : '#' ∉ rest
  ends : ∃ body, rest = body ++ ['$'] ∧ closingBackslashes body % 2 = 0 ∧
    (closingBackslashes body = 0 → body = [])

theorem AnchorAhead.ne_nil (h : AnchorAhead rest) : rest ≠ [] := by
  obtain ⟨body, rfl, -⟩ := h.ends
  exact List.concat_ne_nil _ _

theorem exists_body_of_within {body : List Char} (h : c :: rest <:+ body ++ ['$']) :
    (rest = [] ∧ c = '$') ∨ ∃ rbody, rest = rbody ++ ['$'] ∧ c :: rbody <:+ body := by
  obtain hnil | ⟨front, hfront, hwithin⟩ := List.suffix_concat_iff.mp h
  · exact absurd hnil (List.cons_ne_nil _ _)
  · obtain ⟨-, hlast⟩ | ⟨rbody, rfl, hrest⟩ := List.cons_eq_append_iff.mp hfront
    · obtain ⟨rfl, rfl⟩ := List.cons.inj hlast
      exact .inl ⟨rfl, rfl⟩
    · exact .inr ⟨rbody, hrest, hwithin⟩

/-- Backslashes are counted from the end up to a character that is none, so the same ones are left
after it. -/
theorem AnchorAhead.of_body {body rbody : List Char} (hr : AnchorAhead (body ++ ['$']))
    (hc : c ≠ '\\') (h : c :: rbody <:+ body) : AnchorAhead (rbody ++ ['$']) := by
  obtain ⟨body', hbody', heven, hzero⟩ := hr.ends
  obtain rfl := List.append_cancel_right hbody'
  obtain ⟨front, rfl⟩ := h
  have hcount := closingBackslashes_append_cons front rbody hc
  have hwithin : rbody ++ ['$'] <:+ front ++ c :: rbody ++ ['$'] := ⟨front ++ [c], by simp⟩
  refine ⟨notMem_of_within hr.visible hwithin, rbody, rfl, hcount ▸ heven, fun hnone => ?_⟩
  exact absurd (hzero (hcount.trans hnone)) (by simp)

theorem AnchorAhead.past (hr : AnchorAhead r) (h : Past r rest) : AnchorAhead rest := by
  obtain ⟨body, rfl, -, hzero⟩ := hr.ends
  cases h with
  | plain hc hwithin =>
    obtain ⟨-, hdollar⟩ | ⟨rbody, rfl, hbody⟩ := exists_body_of_within hwithin
    · exact absurd hdollar hc.2
    · exact hr.of_body hc.1 hbody
  | dollar hb hwithin =>
    obtain ⟨hnil, -⟩ | ⟨rbody, hrest, hbody⟩ := exists_body_of_within hwithin
    · exact absurd hnil (List.cons_ne_nil _ _)
    · obtain ⟨rfl, -⟩ | ⟨rbody, rfl, rfl⟩ := List.cons_eq_append_iff.mp hrest
      · obtain ⟨front, rfl⟩ := hbody
        exact absurd (hzero (closingBackslashes_append_cons front [] hb)) (by simp)
      · exact hr.of_body (by decide) ((List.suffix_cons _ _).trans hbody)

theorem AnchorAhead.tail_of_dollar (hr : AnchorAhead ('$' :: cs)) : cs = [] ∨ AnchorAhead cs := by
  obtain ⟨body, hbody, -⟩ := hr.ends
  obtain ⟨-, hlast⟩ | ⟨rbody, rfl, rfl⟩ := List.cons_eq_append_iff.mp hbody
  · exact .inl (List.cons.inj hlast).2.symm
  · exact .inr (AnchorAhead.of_body hr (by decide) List.suffix_rfl)

/-- A backslash and the character it escapes are read together; the anchor is not this character. -/
theorem AnchorAhead.tail_of_backslash (hr : AnchorAhead ('\\' :: cs)) : AnchorAhead cs.tail := by
  obtain ⟨body, hbody, heven, hzero⟩ := hr.ends
  obtain ⟨-, hlast⟩ | ⟨rbody, rfl, rfl⟩ := List.cons_eq_append_iff.mp hbody
  · exact absurd (List.cons.inj hlast).1 (by decide)
  cases rbody with
  | nil => exact absurd heven (by decide)
  | cons d rbody =>
    by_cases hd : d = '\\'
    · subst hd
      rw [closingBackslashes_pair_mod_two] at heven
      refine ⟨notMem_of_within hr.visible ⟨['\\', '\\'], rfl⟩, rbody, rfl, heven, fun hnone => ?_⟩
      cases rbody with
      | nil => rfl
      | cons b rbody =>
        rw [closingBackslashes_eq_zero_iff] at hnone
        refine absurd (hzero (closingBackslashes_eq_zero_iff.mpr ?_)) (List.cons_ne_nil _ _)
        rwa [List.getLast?_cons_cons, List.getLast?_cons_cons]
    · exact AnchorAhead.of_body hr hd (List.suffix_cons _ _)

theorem AnchorAhead.of_ends (hr : AnchorAhead r) (h : Ends r rest) : AnchorAhead rest :=
  hr.past (h.past hr.visible)

theorem AnchorAhead.of_skips (hr : AnchorAhead r) (h : Skips r rest) : AnchorAhead rest := by
  obtain rfl | hpast := h.past hr.visible
  · exact hr
  · exact hr.past hpast

theorem AnchorAhead.of_escape (hr : AnchorAhead r) (h : r.head? = some '\\') :
    AnchorAhead r.tail.tail := by
  obtain ⟨cs, rfl⟩ := List.head?_eq_some_iff.mp h
  exact hr.tail_of_backslash

theorem AnchorAhead.of_dollar (hr : AnchorAhead r) (h : r.head? = some '$') :
    r.tail = [] ∨ AnchorAhead r.tail := by
  obtain ⟨cs, rfl⟩ := List.head?_eq_some_iff.mp h
  exact hr.tail_of_dollar

theorem AnchorAhead.onPlain (hr : AnchorAhead r) (hbackslash : r.head? ≠ some '\\')
    (hdollar : r.head? ≠ some '$') :
    OnPlain r := by
  obtain ⟨c, cs, rfl⟩ := List.exists_cons_of_ne_nil hr.ne_nil
  exact ⟨c, cs, rfl, fun h => hbackslash (congrArg some h), fun h => hdollar (congrArg some h)⟩

theorem Skips.eq_nil (h : Skips r rest) (hr : r = []) : rest = [] :=
  List.suffix_nil.mp (hr ▸ h.within)

attribute [grind →] AnchorAhead.past AnchorAhead.ne_nil AnchorAhead.visible AnchorAhead.of_ends
  AnchorAhead.of_skips
  Skips.eq_nil

/-- What has been read last is an anchor; the parts that have been read are in reverse order. -/
def LastIsLook (done : List Item) : Prop :=
  ∃ l depth rest, done = .pattern (.look l) depth :: rest

@[spec] theorem primitive_spec :
    ⦃fun s => ⌜s.rest = r⌝⦄ primitive
      ⦃⇓? item s => ⌜s.rest <:+ r ∧ (AnchorAhead r → AnchorAhead s.rest ∨ s.rest = [] ∧
          LastIsLook [item])⌝⦄ := by
  mvcgen [primitive]
  all_goals grind -ring -linarith [LastIsLook, AnchorAhead.onPlain, → AnchorAhead.of_escape, →
    AnchorAhead.of_dollar]

/-- A group is read to its end, and what is inside stays within the text. The readers call each
other with less fuel, so they are taken together. -/
theorem readers_within (fuel : Nat) :
    (∀ r done, ⦃fun s => ⌜s.rest <:+ r⌝⦄ alternation fuel done ⦃⇓? _ s => ⌜s.rest <:+ r⌝⦄) ∧
    (∀ r done, ⦃fun s => ⌜s.rest <:+ r⌝⦄ sequence fuel done ⦃⇓? _ s => ⌜s.rest <:+ r⌝⦄) ∧
    ∀ r, ⦃fun s => ⌜s.rest = r⌝⦄ group fuel ⦃⇓? _ s => ⌜Past r s.rest⌝⦄ := by
  induction fuel with
  | zero =>
    refine ⟨fun r done => ?_, fun r done => ?_, fun r => ?_⟩
    · mvcgen [alternation]
      all_goals grind -ring -linarith
    · mvcgen [sequence]
      all_goals grind -ring -linarith
    · mvcgen [group]
      all_goals grind -ring -linarith
  | succ fuel ih =>
    obtain ⟨halternation, hsequence, hgroup⟩ := ih
    refine ⟨fun r done => ?_, fun r done => ?_, fun r => ?_⟩
    · -- The triples are about any text that what is left is within, so it has to be named here.
      have hsequence := hsequence r
      mvcgen [alternation, hsequence, halternation]
      all_goals grind -ring -linarith
    · mvcgen [sequence, hgroup, hsequence]
      all_goals grind -ring -linarith
    · have halternation := halternation r
      mvcgen [group, halternation]
      all_goals grind -ring -linarith

@[spec] theorem group_spec (fuel : Nat) :
    ⦃fun s => ⌜s.rest = r⌝⦄ group fuel ⦃⇓? _ s => ⌜Past r s.rest⌝⦄ :=
  (readers_within fuel).2.2 r

theorem LastIsLook.cons {item : Item} (h : LastIsLook [item]) (done : List Item) :
    LastIsLook (item :: done) := by
  obtain ⟨l, depth, rest, heq⟩ := h
  exact ⟨l, depth, done, by rw [(List.cons.inj heq).1]⟩

theorem LastIsLook.anchored {done : List Item} (h : LastIsLook done) :
    (concatItems done).1.Anchored := by
  obtain ⟨l, depth, rest, rfl⟩ := h
  have hlook : Pattern.Anchored (.look l) := .look l
  cases rest with
  | nil => exact hlook
  | cons item rest =>
    exact hlook.concat (List.mem_map.mpr ⟨.pattern (.look l) depth,
      List.mem_reverse.mpr List.mem_cons_self, rfl⟩)

theorem anchored_branches {branch : Pattern × Nat} (h : branch.1.Anchored)
    (done : List (Pattern × Nat)) :
    (Pattern.alternation ((branch :: done).reverse.map Prod.fst)).Anchored :=
  h.alternation (List.mem_map_of_mem (List.mem_reverse.mpr List.mem_cons_self))

/-- Wherever the reading stops, the anchor is still ahead, or it has been read and is part of the
pattern. -/
theorem readers_anchored (fuel : Nat) :
    (∀ done, ⦃fun s => ⌜AnchorAhead s.rest⌝⦄ alternation fuel done
      ⦃⇓? p s => ⌜AnchorAhead s.rest ∨ s.rest = [] ∧ p.1.Anchored⌝⦄) ∧
    ∀ done,
      ⦃fun s => ⌜AnchorAhead s.rest ∨ s.rest = [] ∧ LastIsLook done⌝⦄ sequence fuel done
        ⦃⇓? p s => ⌜AnchorAhead s.rest ∨ s.rest = [] ∧ p.1.Anchored⌝⦄ := by
  induction fuel with
  | zero =>
    refine ⟨fun done => ?_, fun done => ?_⟩
    · mvcgen [alternation]
      all_goals grind -ring -linarith
    · mvcgen [sequence]
      all_goals grind -ring -linarith
  | succ fuel ih =>
    obtain ⟨halternation, hsequence⟩ := ih
    refine ⟨fun done => ?_, fun done => ?_⟩
    · mvcgen [alternation, hsequence, halternation]
      all_goals grind -ring -linarith [anchored_branches]
    · -- Whatever begins here is read to its end, which comes before the anchor, or it is the
      -- anchor itself.
      mvcgen [sequence, hsequence]
      all_goals grind -ring -linarith [LastIsLook.cons, LastIsLook.anchored]

theorem throw_eq_fail (m : Malformed) : (throw m : Parse α) = fail m.fault m.span :=
  rfl

theorem expression_spec : ⦃fun s => ⌜AnchorAhead s.rest⌝⦄ expression ⦃⇓? p _ => ⌜p.Anchored⌝⦄ := by
  have halternation fuel := (readers_anchored fuel).1
  unfold expression
  simp only [throw_eq_fail]
  mvcgen [halternation]
  all_goals grind -ring -linarith

theorem holds_of_run {f : Parse α} {P : State → Prop} {Q : α → State → Prop}
    (h : ⦃fun s => ⌜P s⌝⦄ f ⦃⇓? a s => ⌜Q a s⌝⦄) {s s' : State} {a : α} (hs : P s)
    (hrun : f.run s = .ok (a, s')) :
    Q a s' :=
  Except.of_wp_eq hrun
    (fun outcome => match outcome with
      | .ok (a, s) => Q a s
      | .error _ => True)
    fun _ => h s hs

end Parser

theorem anchored_of_parse {text : String} {p : Pattern} (h : parse text = .ok p)
    (htext : Parser.AnchorAhead text.toList) : p.Anchored := by
  unfold parse at h
  cases hrun : Parser.expression.run ⟨text.toList, ⟨1, 1⟩, {}, 0, [], none⟩ with
  | error e => exact absurd (hrun ▸ h) nofun
  | ok read =>
    rw [hrun] at h
    obtain rfl := Except.ok.inj h
    exact Parser.holds_of_run Parser.expression_spec htext hrun

theorem Sampler.compile_of_anchorAhead {text : String} (h : Parser.AnchorAhead text.toList)
    (maxRepeat : Nat) :
    ∃ e, compile text maxRepeat = .error e := by
  unfold compile
  cases hparse : parse text with
  | error reason => exact ⟨_, rfl⟩
  | ok p => exact ofPattern_of_anchored maxRepeat (anchored_of_parse hparse h)

end Fixtures.Regex
