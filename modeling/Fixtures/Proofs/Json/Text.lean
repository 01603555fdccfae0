import Fixtures.Contract.Basic
import Fixtures.Json.Reader
import Fixtures.Proofs.Encoding.Bytes
import Fixtures.Proofs.Numeric.DecimalText
import Fixtures.Proofs.Numeric.Integers
import Fixtures.Proofs.Text.Joined

namespace Fixtures.Json

open Fixtures.Text

section Strings

variable {c : Char} {cs done rest rest' : List Char} {s t : String} {fuel : Nat}

theorem unit?_of_lt {n : Nat} (h : n < 32) :
    Reader.unit? ('0' :: '0' :: hexDigit (n / 16) :: hexDigit (n % 16) :: rest) =
      some (n, rest) := by
  have hhigh : hexDigit? (hexDigit (n / 16)) = some (n / 16) := Hex.hexDigit?_hexDigit (by omega)
  have hlow : hexDigit? (hexDigit (n % 16)) = some (n % 16) :=
    Hex.hexDigit?_hexDigit (Nat.mod_lt _ (by decide))
  have hzero : hexDigit? '0' = some 0 := by decide
  have hvalue : ((0 * 16 + 0) * 16 + n / 16) * 16 + n % 16 = n := by omega
  simp only [Reader.unit?, hzero, hhigh, hlow, Option.bind_eq_bind, Option.bind_some,
    Option.pure_def, hvalue]

theorem unicodeEscape_of_lt (h : c.toNat < 32) : Reader.unicodeEscape
    ('0' :: '0' :: hexDigit (c.toNat / 16) :: hexDigit (c.toNat % 16) :: rest) =
      some (c, rest) := by
  have hlow : ¬ (0xDC00 ≤ c.toNat ∧ c.toNat < 0xE000) := by omega
  have hhigh : ¬ (0xD800 ≤ c.toNat ∧ c.toNat < 0xDC00) := by omega
  simp only [Reader.unicodeEscape, unit?_of_lt h, Option.bind_eq_bind, Option.bind_some,
    if_neg hlow, if_neg hhigh, Char.ofNat_toNat]

theorem stringTail_escapeChar (c : Char) :
    Reader.stringTail (fuel + 1) done (escapeChar c ++ rest) =
      Reader.stringTail fuel (c :: done) rest := by
  unfold escapeChar
  split
  iterate 5 rfl
  next hquote hbackslash _ _ _ =>
    split
    · next h =>
      rw [← Char.ofNat_toNat c, h]
      rfl
    · split
      · next h =>
        rw [← Char.ofNat_toNat c, h]
        rfl
      · split
        · next h =>
          show (Reader.unicodeEscape
            ('0' :: '0' :: hexDigit (c.toNat / 16) :: hexDigit (c.toNat % 16) :: rest)).bind _ = _
          rw [unicodeEscape_of_lt h]
          rfl
        · next h =>
          rw [List.singleton_append, Reader.stringTail, if_neg h]
          · exact hquote
          · exact hbackslash

theorem stringTail_flatMap_escapeChar (h : cs.length < fuel) :
    Reader.stringTail fuel done (cs.flatMap escapeChar ++ '"' :: rest) =
      some (String.ofList (done.reverse ++ cs), rest) := by
  induction cs generalizing fuel done with
  | nil =>
    obtain ⟨fuel, rfl⟩ := Nat.exists_eq_add_one_of_ne_zero (Nat.ne_of_gt h)
    rw [List.append_nil]
    rfl
  | cons c cs ih =>
    obtain ⟨fuel, rfl⟩ := Nat.exists_eq_add_one_of_ne_zero (Nat.ne_of_gt (Nat.zero_lt_of_lt h))
    rw [List.flatMap_cons, List.append_assoc, stringTail_escapeChar, ih (Nat.lt_of_succ_lt_succ h),
      List.reverse_cons, List.append_assoc, List.singleton_append]

theorem length_le_flatMap_escapeChar (cs : List Char) :
    cs.length ≤ (cs.flatMap escapeChar).length := by
  have hpos : ∀ c, 0 < (escapeChar c).length := by
    intro c
    unfold escapeChar
    repeat' split
    all_goals exact Nat.succ_pos _
  induction cs with
  | nil => exact Nat.le_refl 0
  | cons c cs ih =>
    have hc := hpos c
    rw [List.flatMap_cons, List.length_append, List.length_cons]
    omega

theorem toList_quoted (s : String) :
    (quoted s).toList = '"' :: (s.toList.flatMap escapeChar ++ ['"']) := by
  simp [quoted]

theorem string_quoted (s : String) :
    Reader.string (((quoted s).toList ++ rest).drop 1) = some (s, rest) := by
  rw [toList_quoted, List.cons_append, List.drop_one, List.tail_cons, List.append_assoc,
    List.singleton_append, Reader.string, stringTail_flatMap_escapeChar, List.reverse_nil,
    List.nil_append, String.ofList_toList]
  have hlength := length_le_flatMap_escapeChar s.toList
  rw [List.length_append, List.length_cons]
  omega

theorem eq_of_quoted_append_eq (h : (quoted s).toList ++ rest = (quoted t).toList ++ rest') :
    s = t ∧ rest = rest' := by
  have hread : Reader.string (((quoted s).toList ++ rest).drop 1) = some (s, rest) :=
    string_quoted s
  rw [h, string_quoted] at hread
  cases hread
  exact ⟨rfl, rfl⟩

end Strings

/-- Values without infinities and NaN, which have no text of their own. -/
inductive IsFinite : Json → Prop
  | null : IsFinite .null
  | bool (b : Bool) : IsFinite (.bool b)
  | int (n : Int) : IsFinite (.int n)
  | float {x : Float} : x.isFinite = true → IsFinite (.float x)
  | string (s : String) : IsFinite (.string s)
  | array {items : List Json} : (∀ j ∈ items, IsFinite j) → IsFinite (.array items)
  | object {ms : List (String × Json)} : (∀ m ∈ ms, IsFinite m.2) → IsFinite (.object ms)

def kind : Json → Kind
  | .null => .null
  | .bool _ => .boolean
  | .int _ | .float _ => .number
  | .string _ => .string
  | .array _ => .array
  | .object _ => .object

def kindOf? (c : Char) : Option Kind :=
  if c = '-' || c.isDigit then some .number
  else if c = 'n' then some .null
  else if c = 't' || c = 'f' then some .boolean
  else if c = '"' then some .string
  else if c = '[' then some .array
  else if c = '\x7b' then some .object
  else none

section Values

variable {j j' : Json} {r r' : List Char} {c : Char} {n : Int} {x : Float}

theorem kindOf?_of_isDigit (h : c.isDigit = true) : kindOf? c = some .number :=
  if_pos (by rw [h, Bool.or_true])

theorem exists_first_toString (n : Int) :
    ∃ c cs, (toString n).toList = c :: cs ∧ kindOf? c = some .number := by
  rw [toList_toString]
  split
  · obtain ⟨c, cs, hcs⟩ := List.exists_cons_of_ne_nil (Nat.toDigits_ne_nil (b := 10) (n := n.toNat))
    have hdigit : c.isDigit = true :=
      Nat.isDigit_of_mem_toDigits (n := n.toNat) (by decide) (by decide) (hcs ▸ List.mem_cons_self)
    exact ⟨c, cs, hcs, kindOf?_of_isDigit hdigit⟩
  · exact ⟨_, _, rfl, rfl⟩

theorem json?_eq_floatText (h : x.isFinite = true) : Decimal.json? x = some (floatText x) := by
  obtain ⟨p, hp⟩ := Binary64.exists_parts?_of_isFinite h
  obtain ⟨s, hs⟩ : ∃ s, Decimal.json? x = some s := ⟨_, by rw [Decimal.json?, hp, Option.map_some]⟩
  rw [floatText, hs, Option.getD_some]

theorem exists_floatText (h : x.isFinite = true) : ∃ (negative : Bool) (u : List Char) (v : ℚ),
    (floatText x).toList = (if negative then ['-'] else []) ++ u ∧ Decimal.Written u v := by
  obtain ⟨p, hp⟩ := Binary64.exists_parts?_of_isFinite h
  obtain ⟨u, hu, hwritten⟩ := Decimal.exists_written hp (json?_eq_floatText h)
  exact ⟨p.negative, u, _, hu, hwritten⟩

theorem IsFinite.exists_first (h : j.IsFinite) :
    ∃ c cs, j.compact.toList = c :: cs ∧ kindOf? c = some j.kind := by
  cases h with
  | null => exact ⟨_, _, rfl, rfl⟩
  | bool b => cases b <;> exact ⟨_, _, rfl, rfl⟩
  | int n => exact exists_first_toString n
  | float hx =>
    obtain ⟨negative, u, v, htext, hu⟩ := exists_floatText hx
    obtain ⟨c, cs, rfl, hc⟩ := hu.first
    rw [compact, htext]
    cases negative
    · exact ⟨c, cs, rfl, kindOf?_of_isDigit hc⟩
    · exact ⟨_, _, rfl, rfl⟩
  | string s => exact ⟨_, _, toList_quoted s, rfl⟩
  | array => exact ⟨_, _, by rw [compact, String.append_assoc, String.toList_append]; rfl, rfl⟩
  | object => exact ⟨_, _, by rw [compact, String.append_assoc, String.toList_append]; rfl, rfl⟩

theorem kind_eq_of_append_eq (hj : j.IsFinite) (hj' : j'.IsFinite)
    (h : j.compact.toList ++ r = j'.compact.toList ++ r') : j.kind = j'.kind := by
  obtain ⟨c, cs, hcs, hc⟩ := hj.exists_first
  obtain ⟨c', cs', hcs', hc'⟩ := hj'.exists_first
  rw [hcs, hcs', List.cons_append, List.cons_append, List.cons.injEq] at h
  rw [h.1] at hc
  exact Option.some.inj (hc.symm.trans hc')

def Apart (r : List Char) : Prop :=
  ∀ c ∈ r.head?, ¬ Decimal.IsNumberMark c

theorem eq_of_append_apart {u u' : List Char} (hu : ∀ c ∈ u, Decimal.IsNumberMark c)
    (hu' : ∀ c ∈ u', Decimal.IsNumberMark c) (hr : Apart r) (hr' : Apart r')
    (h : u ++ r = u' ++ r') :
    u = u' ∧ r = r' := by
  have hmore : ∀ {more rest : List Char}, (∀ c ∈ more, Decimal.IsNumberMark c) →
      Apart (more ++ rest) → more = [] := by
    intro more rest hmarks hrest
    cases more with
    | nil => rfl
    | cons c more => exact absurd (hmarks c List.mem_cons_self) (hrest c rfl)
  rcases List.append_eq_append_iff.mp h with ⟨more, rfl, rfl⟩ | ⟨more, rfl, rfl⟩
  · rw [hmore (List.forall_mem_append.mp hu').2 hr]
    exact ⟨(List.append_nil u).symm, rfl⟩
  · rw [hmore (List.forall_mem_append.mp hu).2 hr']
    exact ⟨List.append_nil u', rfl⟩

theorem IsFinite.isNumberMark (h : j.IsFinite) (hkind : j.kind = .number) :
    ∀ c ∈ j.compact.toList, Decimal.IsNumberMark c := by
  cases h with
  | int n =>
    intro c hc
    rcases isIntegerMark_of_mem_toString hc with rfl | hdigit
    · exact .inr (by decide)
    · exact .inl hdigit
  | float hx =>
    obtain ⟨negative, u, v, htext, hu⟩ := exists_floatText hx
    rw [compact, htext]
    refine List.forall_mem_append.mpr ⟨?_, hu.isNumberMark⟩
    cases negative
    · exact nofun
    · exact List.forall_mem_singleton.mpr (.inr (by decide))
  | _ => cases hkind

theorem toString_ne_floatText (h : x.isFinite = true) : toString n ≠ floatText x := by
  intro heq
  obtain ⟨negative, u, v, htext, hu⟩ := exists_floatText h
  have hmarks : ∀ c ∈ u, IsIntegerMark c := fun c hc =>
    isIntegerMark_of_mem_toString (n := n) (by rw [heq, htext]; exact List.mem_append_right _ hc)
  rcases hu.fractional with hdot | he
  · rcases hmarks _ hdot with h | h <;> exact absurd h (by decide)
  · rcases hmarks _ he with h | h <;> exact absurd h (by decide)

theorem eq_of_number (hj : j.IsFinite) (hj' : j'.IsFinite) (hkind : j.kind = .number)
    (hkind' : j'.kind = .number) (h : j.compact = j'.compact) : j = j' := by
  cases hj with
  | int n =>
    cases hj' with
    | int m => rw [toString_injective h]
    | float hy => exact absurd h (toString_ne_floatText hy)
    | _ => cases hkind'
  | @float x hx =>
    cases hj' with
    | int m => exact absurd h.symm (toString_ne_floatText hx)
    | @float y hy =>
      have htext : Decimal.json? y = some (floatText x) :=
        (json?_eq_floatText hy).trans (congrArg some h.symm)
      rw [Decimal.json?_injective (json?_eq_floatText hx) htext]
    | _ => cases hkind'
  | _ => cases hkind

end Values

section Lists

variable {α : Type} {text : α → List Char} {P : α → Prop} {a : α} {as bs : List α}
    {r r' : List Char} {close : Char}

def Splits (text : α → List Char) (P : α → Prop) (a : α) : Prop :=
  ∀ b r r', P b → Apart r → Apart r' → text a ++ r = text b ++ r' → a = b ∧ r = r'

theorem apart_cons {c : Char} (h : ¬ Decimal.IsNumberMark c) : Apart (c :: r) := by
  intro d hd
  cases hd
  exact h

theorem apart_entries (hclose : ¬ Decimal.IsNumberMark close) :
    Apart (as.flatMap (fun a => ',' :: text a) ++ close :: r) := by
  cases as with
  | nil => exact apart_cons hclose
  | cons a as => exact apart_cons (by decide)

theorem eq_of_entries_eq (hclose : ¬ Decimal.IsNumberMark close) (hne : close ≠ ',')
    (has : ∀ a ∈ as, Splits text P a)
    (hbs : ∀ b ∈ bs, P b) (h : as.flatMap (fun a => ',' :: text a) ++ close :: r =
      bs.flatMap (fun b => ',' :: text b) ++ close :: r') : as = bs ∧ r = r' := by
  induction as generalizing bs with
  | nil =>
    cases bs with
    | nil => exact ⟨rfl, (List.cons.inj h).2⟩
    | cons b bs => exact absurd (List.cons.inj h).1 hne
  | cons a as ih =>
    cases bs with
    | nil => exact absurd (List.cons.inj h).1.symm hne
    | cons b bs =>
      obtain ⟨ha, hmore⟩ := List.forall_mem_cons.mp has
      obtain ⟨hb, hmore'⟩ := List.forall_mem_cons.mp hbs
      rw [List.flatMap_cons, List.flatMap_cons, List.cons_append, List.cons_append,
        List.cons_append, List.cons_append, List.append_assoc, List.append_assoc] at h
      obtain ⟨rfl, hrest⟩ :=
        ha b _ _ hb (apart_entries hclose) (apart_entries hclose) (List.cons.inj h).2
      obtain ⟨rfl, rfl⟩ := ih hmore hmore' hrest
      exact ⟨rfl, rfl⟩

theorem intercalate_cons (a : α) (as : List α) :
    [','].intercalate ((a :: as).map text) = text a ++ as.flatMap (fun a => ',' :: text a) := by
  induction as generalizing a with
  | nil => simp
  | cons b as ih =>
    rw [List.map_cons, List.map_cons, List.intercalate_cons_cons, ← List.map_cons, ih b,
      List.flatMap_cons, List.append_assoc]
    rfl

/-- Lists of entries between a comma each and up to a closing character are told apart. -/
theorem eq_of_intercalate_append_eq (hclose : ¬ Decimal.IsNumberMark close) (hne : close ≠ ',')
    (has : ∀ a ∈ as, Splits text P a) (hbs : ∀ b ∈ bs, P b)
    (hfirst : ∀ a ∈ as ++ bs, ∃ c cs, text a = c :: cs ∧ c ≠ close)
    (h : [','].intercalate (as.map text) ++ close :: r = [','].intercalate (bs.map text) ++
      close :: r') :
    as = bs ∧ r = r' := by
  cases as with
  | nil =>
    cases bs with
    | nil => exact ⟨rfl, (List.cons.inj h).2⟩
    | cons b bs =>
      obtain ⟨c, cs, hcs, hc⟩ := hfirst b (by simp)
      rw [intercalate_cons, hcs] at h
      exact absurd (List.cons.inj h).1.symm hc
  | cons a as =>
    cases bs with
    | nil =>
      obtain ⟨c, cs, hcs, hc⟩ := hfirst a (by simp)
      rw [intercalate_cons, hcs] at h
      exact absurd (List.cons.inj h).1 hc
    | cons b bs =>
      obtain ⟨ha, hmore⟩ := List.forall_mem_cons.mp has
      obtain ⟨hb, hmore'⟩ := List.forall_mem_cons.mp hbs
      rw [intercalate_cons, intercalate_cons, List.append_assoc, List.append_assoc] at h
      obtain ⟨rfl, hrest⟩ := ha b _ _ hb (apart_entries hclose) (apart_entries hclose) h
      obtain ⟨rfl, rfl⟩ := eq_of_entries_eq hclose hne hmore hmore' hrest
      exact ⟨rfl, rfl⟩

end Lists

section Documents

variable {j j' : Json} {items : List Json} {ms : List (String × Json)} {m : String × Json}

def memberText (m : String × Json) : List Char :=
  (quoted m.1).toList ++ ':' :: m.2.compact.toList

theorem toList_compact_array (items : List Json) : (compact (.array items)).toList =
    '[' :: ([','].intercalate (items.map fun j => j.compact.toList) ++ [']']) := by
  have hitems : compactItems items = items.map compact := by
    induction items with
    | nil => rfl
    | cons j items ih => rw [compactItems, ih, List.map_cons]
  simp [compact, hitems, joined, String.toList_intercalate, Function.comp_def]

theorem toList_compact_object (ms : List (String × Json)) : (compact (.object ms)).toList =
    '\x7b' :: ([','].intercalate (ms.map memberText) ++ ['\x7d']) := by
  have hmembers : (compactMembers ms).map String.toList = ms.map memberText := by
    induction ms with
    | nil => rfl
    | cons m ms ih => simp [compactMembers, ih, memberText]
  simp [compact, hmembers, joined, String.toList_intercalate]

theorem splits_memberText (h : Splits (fun j => j.compact.toList) IsFinite m.2) :
    Splits memberText (fun m => m.2.IsFinite) m := by
  rintro ⟨key', j'⟩ r r' hj' hr hr' heq
  obtain ⟨key, j⟩ := m
  rw [memberText, memberText, List.append_assoc, List.append_assoc] at heq
  obtain ⟨rfl, hrest⟩ := eq_of_quoted_append_eq heq
  obtain ⟨rfl, rfl⟩ := h j' r r' hj' hr hr' (List.cons.inj hrest).2
  exact ⟨rfl, rfl⟩

theorem exists_first_memberText (m : String × Json) : ∃ c cs, memberText m = c :: cs ∧ c ≠ '\x7d' :=
  ⟨_, _, by rw [memberText, toList_quoted, List.cons_append], by decide⟩

theorem splits_of_number (hj : j.IsFinite) (hkind : j.kind = .number) :
    Splits (fun j => j.compact.toList) IsFinite j := by
  intro j' r r' hj' hr hr' h
  have hkind' := (kind_eq_of_append_eq hj hj' h).symm.trans hkind
  obtain ⟨htext, rfl⟩ :=
    eq_of_append_apart (hj.isNumberMark hkind) (hj'.isNumberMark hkind') hr hr' h
  exact ⟨eq_of_number hj hj' hkind hkind' (String.toList_injective htext), rfl⟩

theorem IsFinite.first_ne (h : j.IsFinite) (c : Char) (hc : kindOf? c = none) :
    ∃ d cs, j.compact.toList = d :: cs ∧ d ≠ c := by
  obtain ⟨d, cs, hcs, hd⟩ := h.exists_first
  refine ⟨d, cs, hcs, ?_⟩
  rintro rfl
  cases hc.symm.trans hd

theorem IsFinite.splits (hj : j.IsFinite) : Splits (fun j => j.compact.toList) IsFinite j := by
  induction hj with
  | null =>
    intro j' r r' hj' hr hr' h
    have hkind := kind_eq_of_append_eq .null hj' h
    cases hj' with
    | null => exact ⟨rfl, List.append_cancel_left h⟩
    | _ => cases hkind
  | bool b =>
    intro j' r r' hj' hr hr' h
    have hkind := kind_eq_of_append_eq (.bool b) hj' h
    cases hj' with
    | bool b' => cases b <;> cases b' <;> simp [compact] at h ⊢ <;> exact h
    | _ => cases hkind
  | int n => exact splits_of_number (.int n) rfl
  | float hx => exact splits_of_number (.float hx) rfl
  | string s =>
    intro j' r r' hj' hr hr' h
    have hkind := kind_eq_of_append_eq (.string s) hj' h
    cases hj' with
    | string s' =>
      obtain ⟨rfl, rfl⟩ := eq_of_quoted_append_eq h
      exact ⟨rfl, rfl⟩
    | _ => cases hkind
  | @array items hitems ih =>
    intro j' r r' hj' hr hr' h
    have hkind := kind_eq_of_append_eq (.array hitems) hj' h
    cases hj' with
    | @array items' hitems' =>
      dsimp only at h
      rw [toList_compact_array, toList_compact_array, List.cons_append, List.cons_append,
        List.append_assoc, List.append_assoc] at h
      have hfirst : ∀ j ∈ items ++ items', ∃ c cs, j.compact.toList = c :: cs ∧ c ≠ ']' :=
        List.forall_mem_append.mpr ⟨fun j hj => (hitems j hj).first_ne ']' rfl,
          fun j hj => (hitems' j hj).first_ne ']' rfl⟩
      obtain ⟨rfl, rfl⟩ := eq_of_intercalate_append_eq (by decide) (by decide) ih hitems' hfirst
        (List.cons.inj h).2
      exact ⟨rfl, rfl⟩
    | _ => cases hkind
  | @object ms hms ih =>
    intro j' r r' hj' hr hr' h
    have hkind := kind_eq_of_append_eq (.object hms) hj' h
    cases hj' with
    | @object ms' hms' =>
      dsimp only at h
      rw [toList_compact_object, toList_compact_object, List.cons_append, List.cons_append,
        List.append_assoc, List.append_assoc] at h
      obtain ⟨rfl, rfl⟩ := eq_of_intercalate_append_eq (by decide) (by decide)
        (fun m hm => splits_memberText (ih m hm)) hms' (fun m _ => exists_first_memberText m)
          (List.cons.inj h).2
      exact ⟨rfl, rfl⟩
    | _ => cases hkind

theorem compact_injective (hj : j.IsFinite) (hj' : j'.IsFinite) (h : j.compact = j'.compact) :
    j = j' :=
  (hj.splits j' [] [] hj' nofun nofun (congrArg (fun s => s.toList ++ []) h)).1

end Documents

end Fixtures.Json
