import Mathlib
import Fixtures.Regex.Parser

namespace Fixtures.Regex.Parser

open Fixtures.Text Std.Do

set_option mvcgen.warning false

variable {α : Type} {r rest t cs : List Char} {c : Char}

/-- A character that neither escapes another one nor can be an anchor at the end. -/
@[grind] def IsPlain (c : Char) : Prop :=
  c ≠ '\\' ∧ c ≠ '$'

/-- The rest comes after a plain character, or after a dollar sign that no backslash stands
before. -/
inductive Past (r rest : List Char) : Prop
  | plain {c : Char} : IsPlain c → c :: rest <:+ r → Past r rest
  | dollar {b : Char} : b ≠ '\\' → b :: '$' :: rest <:+ r → Past r rest

theorem Past.within (h : Past r rest) : rest <:+ r := by
  cases h with
  | plain _ hwithin => exact (List.suffix_cons _ rest).trans hwithin
  | dollar _ hwithin => exact ((List.suffix_cons _ rest).trans (List.suffix_cons _ _)).trans hwithin

theorem Past.of_within (h : Past r rest) (hr : r <:+ t) : Past t rest := by
  cases h with
  | plain hc hwithin => exact .plain hc (hwithin.trans hr)
  | dollar hb hwithin => exact .dollar hb (hwithin.trans hr)

theorem past_cons (h : IsPlain c) (cs : List Char) : Past (c :: cs) cs :=
  .plain h List.suffix_rfl

/-- What may be left after blanks and comments. A comment can hide backslashes, so it has to be
known that there is none. -/
structure Skips (r rest : List Char) : Prop where
  within : rest <:+ r
  past : '#' ∉ r → rest = r ∨ Past r rest

/-- What may be left after something that ends in a plain character, and blanks and comments after
it. -/
structure Ends (r rest : List Char) : Prop where
  within : rest <:+ r
  past : '#' ∉ r → Past r rest

theorem skips_rfl (r : List Char) : Skips r r :=
  ⟨List.suffix_rfl, fun _ => .inl rfl⟩

/-- What a test holds of is plain if the test does not hold of the two other characters. -/
theorem isPlain_of_test (test : Char → Bool) (hbackslash : test '\\' = false)
    (hdollar : test '$' = false) (h : test c = true) : IsPlain c := by
  constructor
  · rintro rfl
    exact absurd h (by rw [hbackslash]; decide)
  · rintro rfl
    exact absurd h (by rw [hdollar]; decide)

theorem skipFrom_within (comment : Bool) (p : Position) (cs : List Char) :
    (skipFrom comment p cs).1 <:+ cs := by
  induction cs generalizing comment p with
  | nil => exact List.suffix_rfl
  | cons c cs ih =>
    unfold skipFrom
    dsimp only
    split_ifs
    · exact (ih _ _).trans (List.suffix_cons c cs)
    · exact (ih _ _).trans (List.suffix_cons c cs)
    · exact (ih _ _).trans (List.suffix_cons c cs)
    · exact List.suffix_rfl

theorem skips_skipFrom (p : Position) (cs : List Char) : Skips cs (skipFrom false p cs).1 := by
  refine ⟨skipFrom_within false p cs, fun hcs => ?_⟩
  induction cs generalizing p with
  | nil => exact .inl rfl
  | cons c cs ih =>
    rw [List.mem_cons, not_or] at hcs
    simp only [skipFrom, Bool.false_eq_true, if_false]
    split_ifs with hblank hmark
    · refine .inr ?_
      obtain heq | hrest := ih (Position.after p c) hcs.2
      · rw [heq]
        exact past_cons (isPlain_of_test isBlank (by decide) (by decide) hblank) cs
      · exact hrest.of_within (List.suffix_cons c cs)
    · exact absurd hmark (Ne.symm hcs.1)
    · exact .inl rfl

def OnPlain (r : List Char) : Prop :=
  ∃ c cs, r = c :: cs ∧ IsPlain c

theorem onPlain_of_head? (h : r.head? = some c) (hc : IsPlain c) : OnPlain r := by
  obtain ⟨cs, rfl⟩ := List.head?_eq_some_iff.mp h
  exact ⟨c, cs, rfl, hc⟩

theorem OnPlain.past (h : OnPlain r) : Past r r.tail := by
  obtain ⟨c, cs, rfl, hc⟩ := h
  exact past_cons hc cs

theorem notMem_of_within (hr : c ∉ r) (h : rest <:+ r) : c ∉ rest :=
  fun hmem => hr (h.mem hmem)

/-- Blanks are plain as well, so nothing changes where they are stepped over after a plain
character. -/
theorem OnPlain.ends (h : OnPlain r) (hrest : Skips r.tail rest) : Ends r rest := by
  have htail : r.tail <:+ r := List.tail_suffix r
  refine ⟨hrest.within.trans htail, fun hr => ?_⟩
  obtain rfl | hpast := hrest.past (notMem_of_within hr htail)
  · exact h.past
  · exact hpast.of_within htail

theorem Ends.of_within (h : Ends r rest) (hr : r <:+ t) : Ends t rest :=
  ⟨h.within.trans hr, fun ht => (h.past (notMem_of_within ht hr)).of_within hr⟩

theorem Past.ends (h : Past r rest) : Ends r rest :=
  ⟨h.within, fun _ => h⟩

attribute [scoped grind →] onPlain_of_head? notMem_of_within List.IsSuffix.trans Skips.within
  Past.within
  Past.of_within Past.ends Ends.within Ends.past Ends.of_within

scoped grind_pattern List.tail_suffix => l.tail
scoped grind_pattern OnPlain.past => OnPlain r, r.tail
scoped grind_pattern OnPlain.ends => OnPlain r, Skips r.tail rest

@[spec] theorem fail_spec (fault : Fault) (span : Span) :
    ⦃fun _ => ⌜True⌝⦄ (fail fault span : Parse α) ⦃⇓? _ _ => ⌜False⌝⦄ :=
  fun _ _ => trivial

@[spec] theorem defer_spec (fault : Fault) (span : Span) :
    ⦃fun s => ⌜s.rest = r⌝⦄ defer fault span ⦃⇓? _ s => ⌜s.rest = r⌝⦄ :=
  fun _ h => h

@[spec] theorem current?_spec :
    ⦃fun s => ⌜s.rest = r⌝⦄ current? ⦃⇓? c s => ⌜s.rest = r ∧ c = r.head?⌝⦄ :=
  fun _ h => ⟨h, congrArg List.head? h⟩

@[spec] theorem atEnd_spec :
    ⦃fun s => ⌜s.rest = r⌝⦄ atEnd ⦃⇓? b s => ⌜s.rest = r ∧ b = r.isEmpty⌝⦄ :=
  fun _ h => ⟨h, congrArg List.isEmpty h⟩

@[spec] theorem isCurrent_spec (c : Char) :
    ⦃fun s => ⌜s.rest = r⌝⦄ isCurrent c ⦃⇓? b s => ⌜s.rest = r ∧
      (b = true ↔ r.head? = some c)⌝⦄ := by
  mvcgen [isCurrent]
  grind -ring -linarith

@[spec] theorem place_spec : ⦃fun s => ⌜s.rest = r⌝⦄ place ⦃⇓? _ s => ⌜s.rest = r⌝⦄ :=
  fun _ h => h

@[spec] theorem here_spec : ⦃fun s => ⌜s.rest = r⌝⦄ here ⦃⇓? _ s => ⌜s.rest = r⌝⦄ :=
  fun _ h => h

@[spec] theorem since_spec (start : Position) :
    ⦃fun s => ⌜s.rest = r⌝⦄ since start ⦃⇓? _ s => ⌜s.rest = r⌝⦄ :=
  fun _ h => h

@[spec] theorem peek_spec : ⦃fun s => ⌜s.rest = r⌝⦄ peek ⦃⇓? _ s => ⌜s.rest = r⌝⦄ :=
  fun _ h => h

@[spec] theorem peekSkip_spec : ⦃fun s => ⌜s.rest = r⌝⦄ peekSkip ⦃⇓? _ s => ⌜s.rest = r⌝⦄ := by
  mvcgen [peekSkip]

@[spec] theorem remaining_spec :
    ⦃fun s => ⌜s.rest = r⌝⦄ remaining ⦃⇓? n s => ⌜s.rest = r ∧ n = r.length + 1⌝⦄ :=
  fun _ h => ⟨h, congrArg (fun r => r.length + 1) h⟩

@[spec] theorem currentSpan_spec :
    ⦃fun s => ⌜s.rest = r⌝⦄ currentSpan ⦃⇓? _ s => ⌜s.rest = r⌝⦄ := by
  mvcgen [currentSpan]

@[spec] theorem orFail_spec (x : Except Malformed α) :
    ⦃fun s => ⌜s.rest = r⌝⦄ orFail x ⦃⇓? _ s => ⌜s.rest = r⌝⦄ := by
  cases x with
  | ok a => exact fun _ h => h
  | error e => exact fun _ _ => trivial

theorem rest_advance (s : State) : s.advance.rest = s.rest.tail := by
  unfold State.advance
  cases h : s.rest with
  | nil => exact h
  | cons c cs => rfl

theorem advance_within (s : State) (n : Nat) :
    ((List.range n).foldl (fun s _ => s.advance) s).rest <:+ s.rest := by
  induction n with
  | zero => exact List.suffix_rfl
  | succ n ih =>
    rw [List.range_succ, List.foldl_concat, rest_advance]
    exact (List.tail_suffix _).trans ih

@[spec] theorem bump_spec :
    ⦃fun s => ⌜s.rest = r⌝⦄ bump ⦃⇓? more s => ⌜s.rest = r.tail ∧ more = !s.rest.isEmpty⌝⦄ := by
  rintro s rfl
  exact ⟨rest_advance s, rfl⟩

@[spec] theorem bumpMany_spec (n : Nat) :
    ⦃fun s => ⌜s.rest = r⌝⦄ bumpMany n ⦃⇓? _ s => ⌜s.rest <:+ r⌝⦄ := by
  rintro s rfl
  exact advance_within s n

@[spec] theorem bumpIf_spec (word : String) :
    ⦃fun s => ⌜s.rest = r⌝⦄ bumpIf word ⦃⇓? found s => ⌜s.rest <:+ r ∧
      (found = false → s.rest = r)⌝⦄ := by
  mvcgen [bumpIf]
  all_goals grind -ring -linarith

@[spec] theorem skip_spec : ⦃fun s => ⌜s.rest = r⌝⦄ skip ⦃⇓? _ s => ⌜Skips r s.rest⌝⦄ := by
  rintro s rfl
  show Skips s.rest (if s.flags.verbose then _ else s : State).rest
  split
  · exact skips_skipFrom _ _
  · exact skips_rfl _

@[spec] theorem bumpSkip_spec :
    ⦃fun s => ⌜s.rest = r⌝⦄ bumpSkip ⦃⇓? more s => ⌜Skips r.tail s.rest ∧
      more = !s.rest.isEmpty⌝⦄ := by
  mvcgen [bumpSkip]
  all_goals grind -ring -linarith [skips_rfl]

@[spec] theorem takeWhileSkip_spec (test : Char → Bool) (fuel : Nat) :
    ⦃fun s => ⌜s.rest = r⌝⦄ takeWhileSkip test fuel ⦃⇓? _ s => ⌜s.rest <:+ r⌝⦄ := by
  induction fuel generalizing r with
  | zero =>
    mvcgen [takeWhileSkip]
    grind -ring -linarith
  | succ fuel ih =>
    mvcgen [takeWhileSkip, ih]
    all_goals grind -ring -linarith

@[spec] theorem skipBlanks_spec (verbose : Bool) :
    ⦃fun s => ⌜s.rest = r⌝⦄ skipBlanks verbose ⦃⇓? _ s => ⌜s.rest <:+ r⌝⦄ := by
  rintro s rfl
  have hblanks := advance_within s (s.rest.takeWhile isBlank).length
  show (if _ then _ else _ : State).rest <:+ s.rest
  split
  · exact (skipFrom_within _ _ _).trans hblanks
  · exact hblanks

@[spec] theorem decimal_spec : ⦃fun s => ⌜s.rest = r⌝⦄ decimal ⦃⇓? _ s => ⌜s.rest <:+ r⌝⦄ := by
  mvcgen [decimal]
  all_goals grind -ring -linarith

theorem isPlain_of_hexDigit (h : (hexDigit? c).isNone = false) : IsPlain c :=
  isPlain_of_test (fun c => !(hexDigit? c).isNone) (by decide) (by decide) (congrArg not h)

@[spec] theorem hexDigits_spec (n : Nat) (isFirst : Bool) :
    ⦃fun s => ⌜s.rest = r⌝⦄ hexDigits n isFirst
      ⦃⇓? _ s => ⌜s.rest <:+ r ∧ (n = 0 → s.rest = r) ∧ (n ≠ 0 → OnPlain s.rest)⌝⦄ := by
  induction n generalizing isFirst r with
  | zero =>
    mvcgen [hexDigits]
    grind -ring -linarith
  | succ n ih =>
    mvcgen [hexDigits, ih]
    all_goals grind -ring -linarith [→ isPlain_of_hexDigit]

@[spec] theorem hexBraced_spec (n : Nat) (hr : OnPlain r) :
    ⦃fun s => ⌜s.rest = r⌝⦄ hexBraced n
      ⦃⇓? _ s => ⌜s.rest <:+ r ∧ (s.rest = [] ∨ OnPlain s.rest)⌝⦄ := by
  induction n generalizing r with
  | zero =>
    mvcgen [hexBraced]
    grind -ring -linarith
  | succ n ih =>
    mvcgen [hexBraced, ih]
    all_goals grind -ring -linarith [→ isPlain_of_hexDigit, List.head?_eq_none_iff]

@[spec] theorem hexEscape_spec (kind : Char) :
    ⦃fun s => ⌜s.rest = r⌝⦄ hexEscape kind ⦃⇓? _ s => ⌜Ends r s.rest⌝⦄ := by
  mvcgen [hexEscape]
  all_goals grind -ring -linarith

@[spec] theorem untilBrace_spec (fuel : Nat) :
    ⦃fun s => ⌜s.rest = r⌝⦄ untilBrace fuel
      ⦃⇓? _ s => ⌜s.rest <:+ r ∧ (r.length ≤ fuel → s.rest = [] ∨ s.rest.head? = some '}')⌝⦄ := by
  induction fuel generalizing r with
  | zero =>
    mvcgen [untilBrace]
    grind -ring -linarith
  | succ fuel ih =>
    mvcgen [untilBrace, ih]
    all_goals grind -ring -linarith [List.IsSuffix.length_le, List.head?_eq_none_iff]

@[spec] theorem classAtom_spec (negated : Bool) (m : CharSet) :
    ⦃fun s => ⌜s.rest = r⌝⦄ classAtom negated m ⦃⇓? _ s => ⌜s.rest = r⌝⦄ := by
  mvcgen [classAtom]

theorem Past.exists_before (h : Past r rest) : ∃ b, b ≠ '\\' ∧ b :: rest <:+ r := by
  cases h with
  | plain hc hsuffix => exact ⟨_, hc.1, hsuffix⟩
  | dollar _ hsuffix => exact ⟨'$', by decide, (List.suffix_cons _ _).trans hsuffix⟩

/-- Of two characters that are no backslashes the second one may also be a dollar sign. -/
theorem ends_second (h : OnPlain r) (hskips : Skips r.tail cs) (hne : cs ≠ [])
    (hhead : cs.head? ≠ some '\\') (hrest : Skips cs.tail rest) : Ends r rest := by
  have htail : r.tail <:+ r := List.tail_suffix r
  obtain ⟨c, cs, rfl⟩ := List.exists_cons_of_ne_nil hne
  have hc : c ≠ '\\' := fun heq => hhead (congrArg some heq)
  have hwithin : cs <:+ r := ((List.suffix_cons c cs).trans hskips.within).trans htail
  refine ⟨hrest.within.trans hwithin, fun hr => ?_⟩
  obtain ⟨b, hb, hsuffix⟩ : ∃ b, b ≠ '\\' ∧ b :: c :: cs <:+ r := by
    obtain heq | hpast := hskips.past (notMem_of_within hr htail)
    · exact heq ▸ h.past.exists_before
    · exact (hpast.of_within htail).exists_before
  have hcpast : Past r cs := by
    by_cases hdollar : c = '$'
    · exact .dollar hb (hdollar ▸ hsuffix)
    · exact .plain ⟨hc, hdollar⟩ ((List.suffix_cons b _).trans hsuffix)
  obtain rfl | hpast := hrest.past (notMem_of_within hr hwithin)
  · exact hcpast
  · exact hpast.of_within hwithin

@[spec] theorem unicodeEscape_spec (start : Position) (negated : Bool) :
    ⦃fun s => ⌜s.rest = r⌝⦄ unicodeEscape start negated
      ⦃⇓? _ s => ⌜s.rest <:+ r ∧ (OnPlain r → Ends r s.rest)⌝⦄ := by
  mvcgen [unicodeEscape]
  all_goals grind -ring -linarith [ends_second]

@[spec] theorem perlClass_spec (start : Position) (k : Char) :
    ⦃fun s => ⌜s.rest = r⌝⦄ perlClass start k ⦃⇓? _ s => ⌜s.rest = r.tail⌝⦄ := by
  mvcgen [perlClass]
  all_goals grind -ring -linarith

@[spec] theorem wordLook_spec (kind : WordLook) :
    ⦃fun s => ⌜s.rest = r⌝⦄ wordLook kind ⦃⇓? _ s => ⌜s.rest = r⌝⦄ := by
  mvcgen [wordLook]

@[spec] theorem namedBoundary_spec (start : Position) :
    ⦃fun s => ⌜s.rest = r⌝⦄ namedBoundary start
      ⦃⇓? _ s => ⌜s.rest <:+ r ∧ (s.rest = r ∨ Past r s.rest)⌝⦄ := by
  mvcgen [namedBoundary]
  all_goals grind -ring -linarith

@[spec] theorem escape_spec :
    ⦃fun s => ⌜s.rest = r⌝⦄ escape
      ⦃⇓? _ s => ⌜s.rest <:+ r ∧ ('#' ∉ r → s.rest = r.tail.tail ∨ Past r s.rest)⌝⦄ := by
  mvcgen [escape]
  all_goals grind -ring -linarith

@[spec] theorem flagLetters_spec (fuel : Nat) (seen : List (Char × Span)) :
    ⦃fun s => ⌜s.rest = r⌝⦄ flagLetters fuel seen
      ⦃⇓? _ s => ⌜s.rest <:+ r ∧ (r.length < fuel → OnPlain s.rest)⌝⦄ := by
  induction fuel generalizing r seen with
  | zero =>
    mvcgen [flagLetters]
    grind -ring -linarith
  | succ fuel ih =>
    mvcgen [flagLetters, ih]
    all_goals grind -ring -linarith +splitImp
      [List.IsSuffix.length_le, List.length_tail, List.length_pos_iff, List.head?_eq_none_iff]

@[spec] theorem groupNameChars_spec (fuel : Nat) (isFirst : Bool) :
    ⦃fun s => ⌜s.rest = r⌝⦄ groupNameChars fuel isFirst ⦃⇓? _ s => ⌜s.rest <:+ r⌝⦄ := by
  induction fuel generalizing r isFirst with
  | zero =>
    mvcgen [groupNameChars]
    grind -ring -linarith
  | succ fuel ih =>
    mvcgen [groupNameChars, ih]
    all_goals grind -ring -linarith

@[spec] theorem groupName_spec : ⦃fun s => ⌜s.rest = r⌝⦄ groupName ⦃⇓? _ s => ⌜s.rest <:+ r⌝⦄ := by
  mvcgen [groupName]
  all_goals grind -ring -linarith

@[spec] theorem nextGroup_spec : ⦃fun s => ⌜s.rest = r⌝⦄ nextGroup ⦃⇓? _ s => ⌜s.rest = r⌝⦄ :=
  fun _ h => h

@[spec] theorem namedGroup_spec :
    ⦃fun s => ⌜s.rest = r⌝⦄ namedGroup ⦃⇓? _ s => ⌜s.rest <:+ r⌝⦄ := by
  mvcgen [namedGroup]
  all_goals grind -ring -linarith

@[spec] theorem groupOpening_spec (opened : Span) :
    ⦃fun s => ⌜s.rest = r⌝⦄ groupOpening opened
      ⦃⇓? o s => ⌜s.rest <:+ r ∧ (o = .flags → Past r s.rest)⌝⦄ := by
  -- A sign of a look around is refused, so the loop over them leaves the text as it is.
  mvcgen [groupOpening] invariants
  · (fun _ s => ⌜s.rest = r⌝, fun _ => ⌜True⌝, ())
  all_goals grind -ring -linarith

@[spec] theorem classChar_spec (c : Char) (span : Span) :
    ⦃fun s => ⌜s.rest = r⌝⦄ classChar c span ⦃⇓? _ s => ⌜s.rest = r⌝⦄ := by
  mvcgen [classChar]
  grind -ring -linarith

@[spec] theorem atomSet_spec (item : Atom × Span) :
    ⦃fun s => ⌜s.rest = r⌝⦄ atomSet item ⦃⇓? _ s => ⌜s.rest = r⌝⦄ := by
  mvcgen [atomSet]
  all_goals grind -ring -linarith

@[spec] theorem rangeEnd_spec (item : Atom × Span) :
    ⦃fun s => ⌜s.rest = r⌝⦄ rangeEnd item ⦃⇓? _ s => ⌜s.rest = r⌝⦄ := by
  mvcgen [rangeEnd]
  all_goals grind -ring -linarith

@[spec] theorem classItem_spec : ⦃fun s => ⌜s.rest = r⌝⦄ classItem ⦃⇓? _ s => ⌜s.rest <:+ r⌝⦄ := by
  mvcgen [classItem]
  all_goals grind -ring -linarith

@[spec] theorem classRange_spec (opened : Span) :
    ⦃fun s => ⌜s.rest = r⌝⦄ classRange opened ⦃⇓? _ s => ⌜s.rest <:+ r⌝⦄ := by
  mvcgen [classRange]
  all_goals grind -ring -linarith

@[spec] theorem asciiClass_spec :
    ⦃fun s => ⌜s.rest = r⌝⦄ asciiClass ⦃⇓? _ s => ⌜s.rest <:+ r⌝⦄ := by
  mvcgen [asciiClass]
  all_goals grind -ring -linarith

@[spec] theorem leadingHyphens_spec (start : Position) (fuel : Nat) :
    ⦃fun s => ⌜s.rest = r⌝⦄ leadingHyphens start fuel ⦃⇓? _ s => ⌜s.rest <:+ r⌝⦄ := by
  induction fuel generalizing r with
  | zero =>
    mvcgen [leadingHyphens]
    grind -ring -linarith
  | succ fuel ih =>
    mvcgen [leadingHyphens, ih]
    all_goals grind -ring -linarith

/-- A class is read up to its closing bracket. The reader of what is inside calls itself at its end,
so it may start anywhere in `r`. -/
theorem bracketed_and_classBody (fuel : Nat) :
    (∀ r, ⦃fun s => ⌜s.rest = r⌝⦄ bracketed fuel ⦃⇓? _ s => ⌜Past r s.rest⌝⦄) ∧
    ∀ r opened before members count depth,
      ⦃fun s => ⌜s.rest <:+ r⌝⦄ classBody fuel opened before members count depth
        ⦃⇓? _ s => ⌜Past r s.rest⌝⦄ := by
  induction fuel with
  | zero =>
    constructor
    · intro r
      mvcgen [bracketed]
      all_goals grind -ring -linarith
    · intro r opened before members count depth
      mvcgen [classBody]
      all_goals grind -ring -linarith
  | succ fuel ih =>
    obtain ⟨hbracketed, hbody⟩ := ih
    constructor
    · intro r
      have hbody := hbody r
      mvcgen [bracketed, hbody]
      all_goals grind -ring -linarith
    · intro r opened before members count depth
      mvcgen [classBody, hbracketed, hbody]
      all_goals grind -ring -linarith

@[spec] theorem bracketed_spec (fuel : Nat) :
    ⦃fun s => ⌜s.rest = r⌝⦄ bracketed fuel ⦃⇓? _ s => ⌜Past r s.rest⌝⦄ :=
  (bracketed_and_classBody fuel).1 r

@[spec] theorem charPattern_spec (flags : Flags) (c : Char) (span : Span) :
    ⦃fun s => ⌜s.rest = r⌝⦄ charPattern flags c span ⦃⇓? _ s => ⌜s.rest = r⌝⦄ := by
  mvcgen [charPattern]
  all_goals grind -ring -linarith

@[spec] theorem atomPattern_spec (atom : Atom) (span : Span) :
    ⦃fun s => ⌜s.rest = r⌝⦄ atomPattern atom span ⦃⇓? _ s => ⌜s.rest = r⌝⦄ := by
  mvcgen [atomPattern]
  all_goals grind -ring -linarith

@[spec] theorem dot_spec (span : Span) :
    ⦃fun s => ⌜s.rest = r⌝⦄ dot span ⦃⇓? _ s => ⌜s.rest = r⌝⦄ := by
  mvcgen [dot]
  all_goals grind -ring -linarith

@[spec] theorem requireLast_spec (done : List Item) :
    ⦃fun s => ⌜s.rest = r⌝⦄ requireLast done ⦃⇓? _ s => ⌜s.rest = r⌝⦄ := by
  mvcgen [requireLast]
  all_goals grind -ring -linarith

@[spec] theorem repeatLast_spec (least : Nat) (most : Option Nat) (greedy : Bool)
    (done : List Item) :
    ⦃fun s => ⌜s.rest = r⌝⦄ repeatLast least most greedy done ⦃⇓? _ s => ⌜s.rest = r⌝⦄ := by
  mvcgen [repeatLast]

@[spec] theorem uncounted_spec (least : Nat) (most : Option Nat) (done : List Item)
    (hr : OnPlain r) :
    ⦃fun s => ⌜s.rest = r⌝⦄ uncounted least most done ⦃⇓? _ s => ⌜Past r s.rest⌝⦄ := by
  mvcgen [uncounted]
  all_goals grind -ring -linarith

@[spec] theorem counted_spec (done : List Item) :
    ⦃fun s => ⌜s.rest = r⌝⦄ counted done ⦃⇓? _ s => ⌜Ends r s.rest⌝⦄ := by
  mvcgen [counted]
  all_goals grind -ring -linarith

end Fixtures.Regex.Parser
