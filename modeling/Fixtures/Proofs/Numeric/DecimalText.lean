import Mathlib.Data.List.TakeWhile
import Mathlib.Tactic.FieldSimp
import Fixtures.Numeric.Decimal
import Fixtures.Proofs.Numeric.Digits
import Fixtures.Proofs.Numeric.Shortest

namespace Fixtures

namespace Binary64

variable {x y : Float} {p : Parts}

theorem isNormal_of_parts? (h : parts? x = some p) : p.IsNormal := by
  have hpower : twoTo 53 = 2 * twoTo 52 := twoTo_succ 52
  have hfield := Nat.mod_lt (x.toBits.toNat / twoTo 52) (twoTo_pos 11)
  have hfraction := Nat.mod_lt x.toBits.toNat (twoTo_pos 52)
  unfold parts? at h
  simp only at h
  split at h
  · cases h
  · split at h <;> cases h
    · exact ⟨by dsimp only; omega, Int.le_refl _, fun hlt => absurd hlt (Int.lt_irrefl _)⟩
    · exact ⟨by dsimp only; omega, by dsimp only; omega, fun _ => by dsimp only; omega⟩

def Parts.bits (p : Parts) : Nat :=
  p.negative.toNat * twoTo 63 +
    if p.mantissa < twoTo 52 then p.mantissa
    else (p.exponent + 1075).toNat * twoTo 52 + (p.mantissa - twoTo 52)

theorem toNat_sign {n : Nat} (h : n < twoTo 64) : (n / twoTo 63 == 1).toNat = n / twoTo 63 := by
  have hcases : n / twoTo 63 = 0 ∨ n / twoTo 63 = 1 := by
    simp only [twoTo, Nat.pow_eq, Nat.reducePow] at h ⊢
    omega
  rcases hcases with hzero | hone
  · rw [hzero]
    rfl
  · rw [hone]
    rfl

theorem toNat_toBits_of_parts? (h : parts? x = some p) : x.toBits.toNat = p.bits := by
  have hbits : x.toBits.toNat < twoTo 64 := x.toBits.toNat_lt
  have hsign := toNat_sign hbits
  unfold parts? at h
  simp only at h
  split at h
  · cases h
  · next hfield =>
    split at h <;> cases h <;> simp only [Parts.bits, hsign]
    · next hzero =>
      rw [if_pos (Nat.mod_lt _ (twoTo_pos 52))]
      simp only [twoTo, Nat.pow_eq, Nat.reducePow] at *
      omega
    · next hne =>
      rw [if_neg (by omega)]
      simp only [twoTo, Nat.pow_eq, Nat.reducePow] at *
      omega

theorem toBits_injective (h : x.toBits = y.toBits) : x = y := by
  obtain ⟨⟨bits, valid⟩⟩ := x
  obtain ⟨⟨bits', valid'⟩⟩ := y
  cases h
  rfl

theorem parts?_injective (hx : parts? x = some p) (hy : parts? y = some p) : x = y := by
  refine toBits_injective (UInt64.toNat_inj.mp ?_)
  rw [toNat_toBits_of_parts? hx, toNat_toBits_of_parts? hy]

end Binary64

namespace Decimal

variable {x y : Float} {p : Binary64.Parts} {s : String} {u whole fraction digits : List Char}
    {c : Char} {v : ℚ}

def numeralValue (whole fraction : List Char) : ℚ :=
  (Nat.ofDigitChars 10 (whole ++ fraction) 0 : Nat) / 10 ^ fraction.length

def AreDigits (cs : List Char) : Prop :=
  ∀ c ∈ cs, c.isDigit = true

def exponentText (e : Int) : List Char :=
  'e' :: (if e < 0 then '-' else '+') :: Nat.toDigits 10 e.natAbs

def pointed (fraction : List Char) : List Char :=
  if fraction.isEmpty then [] else '.' :: fraction

/-- How numbers without a sign are written: with a fraction, or with an exponent. -/
inductive Written : List Char → ℚ → Prop
  | positional {whole fraction : List Char} : AreDigits whole → whole ≠ [] → AreDigits fraction →
      Written (whole ++ '.' :: fraction) (numeralValue whole fraction)
  | scientific {whole fraction : List Char} (e : Int) : AreDigits whole → whole ≠ [] →
    AreDigits fraction →
      Written (whole ++ pointed fraction ++ exponentText e) (numeralValue whole fraction * 10 ^ e)

def exponentValue : List Char → Int
  | 'e' :: '-' :: ds => -(Nat.ofDigitChars 10 ds 0 : Nat)
  | 'e' :: _ :: ds => (Nat.ofDigitChars 10 ds 0 : Nat)
  | _ => 0

def textValue (cs : List Char) : ℚ :=
  let numeral := cs.takeWhile (· != 'e')
  numeralValue (numeral.takeWhile (· != '.')) ((numeral.dropWhile (· != '.')).drop 1) *
    10 ^ exponentValue (cs.dropWhile (· != 'e'))

theorem exponentValue_exponentText (e : Int) : exponentValue (exponentText e) = e := by
  unfold exponentText
  split
  · show -((Nat.ofDigitChars 10 _ 0 : Nat) : Int) = e
    rw [Nat.ofDigitChars_ten_toDigits]
    omega
  · show ((Nat.ofDigitChars 10 _ 0 : Nat) : Int) = e
    rw [Nat.ofDigitChars_ten_toDigits]
    omega

theorem AreDigits.all_ne {d : Char} (h : AreDigits digits) (hd : d.isDigit = false) :
    ∀ c ∈ digits, (c != d) = true := by
  intro c hc
  rw [bne_iff_ne]
  rintro rfl
  cases hd.symm.trans (h c hc)

theorem AreDigits.pointed_ne (h : AreDigits fraction) :
    ∀ c ∈ pointed fraction, (c != 'e') = true := by
  unfold pointed
  split
  · exact nofun
  · exact List.forall_mem_cons.mpr ⟨rfl, h.all_ne rfl⟩

theorem split_at_point (hwhole : AreDigits whole) :
    (whole ++ '.' :: fraction).takeWhile (· != '.') = whole ∧
    ((whole ++ '.' :: fraction).dropWhile (· != '.')).drop 1 = fraction := by
  have hne := hwhole.all_ne (d := '.') rfl
  rw [List.takeWhile_append_of_pos hne, List.dropWhile_append_of_pos hne]
  simp

theorem split_pointed (hwhole : AreDigits whole) :
    (whole ++ pointed fraction).takeWhile (· != '.') = whole ∧
    ((whole ++ pointed fraction).dropWhile (· != '.')).drop 1 = fraction := by
  cases fraction with
  | nil =>
    have hne := hwhole.all_ne (d := '.') rfl
    have hnone : whole ++ pointed [] = whole := List.append_nil whole
    rw [hnone, List.takeWhile_eq_self_iff.mpr hne, List.dropWhile_eq_nil_iff.mpr hne]
    exact ⟨rfl, rfl⟩
  | cons c fraction => exact split_at_point hwhole

theorem textValue_of_written (h : Written u v) : textValue u = v := by
  have hdot : ∀ fraction, AreDigits fraction → ∀ c ∈ '.' :: fraction, (c != 'e') = true :=
    fun fraction hfraction => List.forall_mem_cons.mpr ⟨rfl, hfraction.all_ne rfl⟩
  unfold textValue
  dsimp only
  cases h with
  | @positional whole fraction hwhole hne hfraction =>
    have hall : ∀ c ∈ whole ++ '.' :: fraction, (c != 'e') = true :=
      List.forall_mem_append.mpr ⟨hwhole.all_ne rfl, hdot fraction hfraction⟩
    rw [List.takeWhile_eq_self_iff.mpr hall, List.dropWhile_eq_nil_iff.mpr hall,
      (split_at_point hwhole).1, (split_at_point hwhole).2]
    exact mul_one _
  | @scientific whole fraction e hwhole hne hfraction =>
    have hall : ∀ c ∈ whole ++ pointed fraction, (c != 'e') = true :=
      List.forall_mem_append.mpr ⟨hwhole.all_ne rfl, hfraction.pointed_ne⟩
    have hstop : (exponentText e).takeWhile (· != 'e') = [] ∧
        (exponentText e).dropWhile (· != 'e') = exponentText e :=
      ⟨rfl, rfl⟩
    rw [List.takeWhile_append_of_pos hall, List.dropWhile_append_of_pos hall, hstop.1, hstop.2,
      List.append_nil, (split_pointed hwhole).1, (split_pointed hwhole).2,
      exponentValue_exponentText]

theorem areDigits_digitsOf (n : Nat) : AreDigits (Shortest.digitsOf n) :=
  fun _ hc => Nat.isDigit_of_mem_toDigits (by decide) (by decide) hc

theorem areDigits_zeros (n : Nat) : AreDigits (List.replicate n '0') := by
  intro c hc
  rw [List.eq_of_mem_replicate hc]
  rfl

theorem numeralValue_zero (whole : List Char) :
    numeralValue whole ['0'] = numeralValue whole [] := by
  unfold numeralValue
  rw [Nat.ofDigitChars_append, List.append_nil]
  simp [Nat.ofDigitChars_cons]

theorem numeralValue_positional (digits : List Char) (point : Int) :
    numeralValue (positional digits point).1 (positional digits point).2 =
      (Nat.ofDigitChars 10 digits 0 : Nat) * 10 ^ (point - digits.length) := by
  have hten : (10 : ℚ) ≠ 0 := by norm_num
  unfold positional numeralValue
  split
  · next hpoint =>
    have hzeros : Nat.ofDigitChars 10 (['0'] ++ (List.replicate (-point).toNat '0' ++ digits)) 0 =
        Nat.ofDigitChars 10 digits 0 := by
      rw [Nat.ofDigitChars_append, Nat.ofDigitChars_append, Nat.ofDigitChars_replicate_zero]
      rfl
    have hexponent : point - digits.length = -(((-point).toNat + digits.length : Nat) : Int) := by
      omega
    dsimp only
    rw [hzeros, List.length_append, List.length_replicate, hexponent, zpow_neg, zpow_natCast,
      div_eq_mul_inv]
  · next hpoint =>
    dsimp only
    split
    · next hlength =>
      have hexponent : point - digits.length = ((point.toNat - digits.length : Nat) : Int) := by
        omega
      rw [List.append_nil, Nat.ofDigitChars_append, Nat.ofDigitChars_replicate_zero, hexponent,
        zpow_natCast]
      simp [mul_comm]
    · next hlength =>
      have hexponent : point - digits.length = -((digits.length - point.toNat : Nat) : Int) := by
        omega
      rw [List.take_append_drop, List.length_drop, hexponent, zpow_neg, zpow_natCast,
        div_eq_mul_inv]

theorem areDigits_positional (h : AreDigits digits) (point : Int) :
    AreDigits (positional digits point).1 ∧ AreDigits (positional digits point).2 :=
  List.forall_mem_append.mp (isDigit_of_mem_positional h)

theorem whole_positional_ne_nil (h : digits ≠ []) (point : Int) :
    (positional digits point).1 ≠ [] := by
  unfold positional
  split
  · exact List.cons_ne_nil _ _
  · dsimp only
    split
    · exact List.append_ne_nil_of_left_ne_nil h _
    · have hlength := List.length_pos_iff.mpr h
      refine List.ne_nil_of_length_pos ?_
      rw [List.length_take]
      omega

section Layouts

variable (hdigits : AreDigits digits) (hne : digits ≠ []) (e : Int)
include hdigits hne

theorem written_positional : Written ((positional digits (digits.length + e)).1 ++
    '.' :: (if (positional digits (digits.length + e)).2.isEmpty then ['0']
      else (positional digits (digits.length + e)).2)) ((Nat.ofDigitChars 10 digits 0 :
        Nat) * 10 ^ e) := by
  have hvalue := numeralValue_positional digits (digits.length + e)
  obtain ⟨hwhole, hfraction⟩ := areDigits_positional hdigits (digits.length + e)
  have hsome := whole_positional_ne_nil hne (digits.length + e)
  rw [add_sub_cancel_left] at hvalue
  generalize positional digits (digits.length + e) = parts at *
  rw [← hvalue]
  split
  · next hnil =>
    rw [List.isEmpty_iff.mp hnil, ← numeralValue_zero]
    exact .positional hwhole hsome (areDigits_zeros 1)
  · exact .positional hwhole hsome hfraction

theorem written_scientific :
    Written (digits.take 1 ++ pointed (digits.drop 1) ++ exponentText (digits.length + e - 1))
    ((Nat.ofDigitChars 10 digits 0 : Nat) * 10 ^ e) := by
  have hlength := List.length_pos_iff.mpr hne
  have hvalue : ((Nat.ofDigitChars 10 digits 0 : Nat) * 10 ^ e : ℚ) =
      numeralValue (digits.take 1) (digits.drop 1) * 10 ^ (digits.length + e - 1 : Int) := by
    have hexponent : (digits.length + e - 1 : Int) = e + (digits.length - 1 : Nat) := by omega
    rw [numeralValue, List.take_append_drop, List.length_drop, hexponent, zpow_add₀ (by norm_num),
      zpow_natCast]
    field_simp
  rw [hvalue]
  refine .scientific _ (fun c hc => hdigits c (List.mem_of_mem_take hc))
    (List.ne_nil_of_length_pos ?_)
    fun c hc => hdigits c (List.mem_of_mem_drop hc)
  rw [List.length_take]
  omega

end Layouts

theorem toList_signText (negative : Bool) :
    (signText negative).toList = if negative then ['-'] else [] := by
  cases negative <;> rfl

theorem toList_pointed (hne : digits ≠ []) :
    (if digits.length = 1 then "" else "." ++ String.ofList (digits.drop 1)).toList =
      pointed (digits.drop 1) := by
  obtain ⟨c, rest, rfl⟩ := List.exists_cons_of_ne_nil hne
  unfold pointed
  cases rest <;> simp

theorem toList_exponent (e : Int) :
    ((if e < 0 then "e-" else "e+") ++ toString e.natAbs).toList = exponentText e := by
  have hdigits : (toString e.natAbs).toList = Nat.toDigits 10 e.natAbs := Nat.toList_repr
  rw [String.toList_append, hdigits]
  unfold exponentText
  split <;> rfl

/-- The text of a finite number is its sign and what is written for its shortest decimal. -/
theorem exists_written (hp : Binary64.parts? x = some p) (hs : json? x = some s) :
    ∃ u, s.toList = (if p.negative then ['-'] else []) ++ u ∧
      Written u (Shortest.shortest .even p.mantissa p.exponent).value := by
  have hzero : p.mantissa = 0 → Shortest.shortest .even p.mantissa p.exponent = ⟨0, 0⟩ :=
    fun hm => if_pos hm
  unfold json? at hs
  rw [hp, Option.map_some, Option.some.injEq] at hs
  dsimp only at hs
  generalize Shortest.shortest .even p.mantissa p.exponent = d at *
  have hpoint :
      (if p.mantissa = 0 then 1 else (Shortest.digitsOf d.digits).length + d.exponent : Int) =
        (Shortest.digitsOf d.digits).length + d.exponent := by
    split
    · next hm =>
      rw [hzero hm]
      rfl
    · rfl
  have hdigits := areDigits_digitsOf d.digits
  have hne : Shortest.digitsOf d.digits ≠ [] := Nat.toDigits_ne_nil
  have hvalue : d.value =
      (Nat.ofDigitChars 10 (Shortest.digitsOf d.digits) 0 : Nat) * 10 ^ d.exponent := by
    rw [Shortest.digitsOf, Nat.ofDigitChars_ten_toDigits]
    rfl
  rw [hpoint] at hs
  rw [hvalue, ← toList_signText]
  generalize Shortest.digitsOf d.digits = digits at *
  split at hs
  · refine ⟨_, ?_, written_positional hdigits hne d.exponent⟩
    rw [← hs]
    split <;> simp [*]
  · refine ⟨_, ?_, written_scientific hdigits hne d.exponent⟩
    rw [← hs, String.append_assoc, String.toList_append, String.toList_append, String.toList_append,
      toList_pointed hne, toList_exponent, String.toList_ofList, List.append_assoc,
      List.append_assoc, List.append_assoc]

def IsNumberMark (c : Char) : Prop :=
  c.isDigit = true ∨ c ∈ ['-', '+', '.', 'e']

instance : DecidablePred IsNumberMark := fun c =>
  inferInstanceAs (Decidable (c.isDigit = true ∨ c ∈ ['-', '+', '.', 'e']))

theorem Written.first (h : Written u v) : ∃ c cs, u = c :: cs ∧ c.isDigit = true := by
  have hfirst : ∀ {whole rest : List Char}, AreDigits whole → whole ≠ [] →
      ∃ c cs, whole ++ rest = c :: cs ∧ c.isDigit = true := by
    intro whole rest hwhole hne
    obtain ⟨c, cs, rfl⟩ := List.exists_cons_of_ne_nil hne
    exact ⟨c, cs ++ rest, rfl, hwhole c List.mem_cons_self⟩
  cases h with
  | positional hwhole hne => exact hfirst hwhole hne
  | scientific e hwhole hne =>
    rw [List.append_assoc]
    exact hfirst hwhole hne

theorem Written.fractional (h : Written u v) : '.' ∈ u ∨ 'e' ∈ u := by
  cases h with
  | positional => exact .inl (List.mem_append_right _ List.mem_cons_self)
  | scientific e => exact .inr (List.mem_append_right _ List.mem_cons_self)

theorem Written.isNumberMark (h : Written u v) : ∀ c ∈ u, IsNumberMark c := by
  have hdigits : ∀ {cs : List Char}, AreDigits cs → ∀ c ∈ cs, IsNumberMark c :=
    fun hcs c hc => .inl (hcs c hc)
  have hdot : ∀ {cs : List Char}, AreDigits cs → ∀ c ∈ '.' :: cs, IsNumberMark c := fun hcs =>
    List.forall_mem_cons.mpr ⟨.inr (by decide), hdigits hcs⟩
  cases h with
  | positional hwhole _ hfraction =>
    exact List.forall_mem_append.mpr ⟨hdigits hwhole, hdot hfraction⟩
  | @scientific whole fraction e hwhole _ hfraction =>
    have hpointed : ∀ c ∈ pointed fraction, IsNumberMark c := by
      unfold pointed
      split
      · exact nofun
      · exact hdot hfraction
    have hsign : IsNumberMark (if e < 0 then '-' else '+') := by split <;> exact .inr (by decide)
    refine List.forall_mem_append.mpr ⟨List.forall_mem_append.mpr ⟨hdigits hwhole, hpointed⟩, ?_⟩
    refine List.forall_mem_cons.mpr ⟨.inr (by decide), List.forall_mem_cons.mpr ⟨hsign, ?_⟩⟩
    exact hdigits fun c hc => Nat.isDigit_of_mem_toDigits (by decide) (by decide) hc

/-- Texts with a sign, where the rest begins with a digit, are equal only if both parts are. -/
theorem eq_of_signed {negative negative' : Bool} {u u' : List Char} {v v' : ℚ} (hu : Written u v)
    (hu' : Written u' v')
    (h : (if negative then ['-'] else []) ++ u = (if negative' then ['-'] else []) ++ u') :
    negative = negative' ∧ u = u' := by
  obtain ⟨c, cs, rfl, hc⟩ := hu.first
  obtain ⟨c', cs', rfl, hc'⟩ := hu'.first
  cases negative <;> cases negative' <;>
    simp only [Bool.false_eq_true, if_false, if_true, List.nil_append, List.cons_append,
      List.cons.injEq] at h ⊢
  · exact ⟨trivial, h⟩
  · rw [h.1] at hc
    cases hc
  · rw [← h.1] at hc'
    cases hc'
  · exact ⟨trivial, h.2⟩

theorem json?_injective (hx : json? x = some s) (hy : json? y = some s) : x = y := by
  obtain ⟨p, hp⟩ : ∃ p, Binary64.parts? x = some p := Option.isSome_iff_exists.mp (by
    simpa [json?] using congrArg Option.isSome hx)
  obtain ⟨q, hq⟩ : ∃ q, Binary64.parts? y = some q := Option.isSome_iff_exists.mp (by
    simpa [json?] using congrArg Option.isSome hy)
  obtain ⟨u, hu, hwritten⟩ := exists_written hp hx
  obtain ⟨u', hu', hwritten'⟩ := exists_written hq hy
  obtain ⟨hnegative, rfl⟩ := eq_of_signed hwritten hwritten' (hu.symm.trans hu')
  have hvalue := (textValue_of_written hwritten).symm.trans (textValue_of_written hwritten')
  have hpn := Binary64.isNormal_of_parts? hp
  have hqn := Binary64.isNormal_of_parts? hq
  have howns := Shortest.owns_shortest hpn .even
  rw [hvalue] at howns
  obtain ⟨hmantissa, hexponent⟩ := howns.unique hpn hqn (Shortest.owns_shortest hqn .even)
  obtain ⟨_, _, _⟩ := p
  obtain ⟨_, _, _⟩ := q
  cases hnegative
  cases hmantissa
  cases hexponent
  exact Binary64.parts?_injective hp hq

end Decimal

end Fixtures
