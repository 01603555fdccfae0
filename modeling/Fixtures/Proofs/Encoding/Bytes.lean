import Fixtures.Encoding.Hex
import Fixtures.Encoding.Uuid

namespace Fixtures.Hex

open Fixtures.Text

theorem hexDigit?_hexDigit {n : Nat} (h : n < 16) : hexDigit? (hexDigit n) = some n := by
  have hall : ∀ n : Fin 16, hexDigit? (hexDigit n) = some n.val := by decide
  exact hall ⟨n, h⟩

theorem encodeChars_cons (b : UInt8) (bytes : List UInt8) : encodeChars (b :: bytes) =
    hexDigit (b.toNat / 16) :: hexDigit (b.toNat % 16) :: encodeChars bytes :=
  rfl

theorem decodeChars_encodeChars (bytes : List UInt8) :
    decodeChars (encodeChars bytes) = some bytes := by
  induction bytes with
  | nil => rfl
  | cons b bytes ih =>
    have hlt := b.toNat_lt
    have hhigh : hexDigit? (hexDigit (b.toNat / 16)) = some (b.toNat / 16) :=
      hexDigit?_hexDigit (by omega)
    have hlow : hexDigit? (hexDigit (b.toNat % 16)) = some (b.toNat % 16) :=
      hexDigit?_hexDigit (Nat.mod_lt _ (by decide))
    have hbyte : b.toNat / 16 * 16 + b.toNat % 16 = b.toNat := by omega
    simp only [encodeChars_cons, decodeChars, hhigh, hlow, ih, hbyte, UInt8.ofNat_toNat,
      Option.bind_eq_bind, Option.bind_some, Option.pure_def]

theorem length_encodeChars (bytes : List UInt8) :
    (encodeChars bytes).length = 2 * bytes.length := by
  induction bytes with
  | nil => rfl
  | cons b bytes ih =>
    rw [encodeChars_cons, List.length_cons, List.length_cons, ih, List.length_cons]
    omega

theorem length_of_decodeChars {cs : List Char} {bytes : List UInt8}
    (h : decodeChars cs = some bytes) :
    cs.length = 2 * bytes.length := by
  induction cs using decodeChars.induct generalizing bytes with
  | case1 =>
    cases h
    rfl
  | case2 c => cases h
  | case3 a b rest ih =>
    simp only [decodeChars, Option.bind_eq_bind, Option.bind_eq_some_iff] at h
    obtain ⟨_, -, _, -, more, hmore, heq⟩ := h
    cases heq
    rw [List.length_cons, List.length_cons, ih hmore, List.length_cons]
    omega

theorem decode?_encode (bytes : List UInt8) : decode? (encode bytes) = some bytes := by
  rw [decode?, encode, String.toList_ofList, decodeChars_encodeChars]

theorem encode_injective {a b : List UInt8} (h : encode a = encode b) : a = b :=
  Option.some.inj (by rw [← decode?_encode a, h, decode?_encode])

theorem isLowerHex_of_mem_encode {bytes : List UInt8} {c : Char} (h : c ∈ (encode bytes).toList) :
    ∃ n < 16, c = hexDigit n := by
  simp only [encode, String.toList_ofList, encodeChars, encodeByte, List.mem_flatMap, List.mem_cons,
    List.not_mem_nil, or_false] at h
  obtain ⟨b, -, rfl | rfl⟩ := h
  · exact ⟨_, by have := b.toNat_lt; omega, rfl⟩
  · exact ⟨_, Nat.mod_lt _ (by decide), rfl⟩

end Fixtures.Hex

namespace Fixtures

open Fixtures.Text

theorem twoTo_byte (i : Nat) : twoTo (8 * (i + 1)) = twoTo (8 * i) * 256 :=
  Nat.pow_add 2 (8 * i) 8

/-- Numbers whose low bytes are the same differ by a multiple of the next power of 256. -/
theorem mod_eq_of_bytes {m n count : Nat}
    (h : ∀ i < count, UInt8.ofNat (m / twoTo (8 * i)) = UInt8.ofNat (n / twoTo (8 * i))) :
    m % twoTo (8 * count) = n % twoTo (8 * count) := by
  induction count with
  | zero => exact (Nat.mod_one m).trans (Nat.mod_one n).symm
  | succ count ih =>
    have hlow := ih fun i hi => h i (Nat.lt_succ_of_lt hi)
    have hbyte : m / twoTo (8 * count) % 256 = n / twoTo (8 * count) % 256 :=
      congrArg UInt8.toNat (h count (Nat.lt_succ_self count))
    rw [twoTo_byte, Nat.mod_mul, Nat.mod_mul, hlow, hbyte]

namespace Uuid

variable {cs : List Char} {bytes : List UInt8} {m n : Nat}

theorem group_append_drop (cs : List Char) (i : Nat) :
    (cs.drop i).take 4 ++ cs.drop (i + 4) = cs.drop i := by
  rw [← List.drop_drop, List.take_append_drop]

theorem filter_hyphenateChars (h : '-' ∉ cs) : (hyphenateChars cs).filter (· ≠ '-') = cs := by
  have hkeep : ∀ part, part ⊆ cs → part.filter (· ≠ '-') = part := fun part hpart =>
    List.filter_eq_self.mpr fun c hc => decide_eq_true fun heq => h (heq ▸ hpart hc)
  have hgroup : ∀ i, ((cs.drop i).take 4).filter (· ≠ '-') = (cs.drop i).take 4 := fun i =>
    hkeep _ fun _ hc => List.mem_of_mem_drop (List.mem_of_mem_take hc)
  have hfilter : (hyphenateChars cs).filter (· ≠ '-') = cs.take 8 ++ ((cs.drop 8).take 4 ++
      ((cs.drop 12).take 4 ++ ((cs.drop 16).take 4 ++ cs.drop 20))) := by
    simp only [hyphenateChars, List.filter_append, List.append_assoc, List.cons_append, ne_eq,
      not_true_eq_false, decide_false, Bool.false_eq_true, not_false_eq_true,
      List.filter_cons_of_neg] at hkeep hgroup ⊢
    rw [hkeep _ (List.take_subset 8 cs), hgroup, hgroup, hgroup, hkeep _ (List.drop_subset 20 cs)]
  rw [hfilter, group_append_drop cs 16, group_append_drop cs 12, group_append_drop cs 8,
    List.take_append_drop]

theorem hyphen_notMem_encodeChars (bytes : List UInt8) : '-' ∉ Hex.encodeChars bytes := by
  intro h
  have hmem : '-' ∈ (Hex.encode bytes).toList := by simpa [Hex.encode] using h
  obtain ⟨n, hn, heq⟩ := Hex.isLowerHex_of_mem_encode hmem
  have hall : ∀ n : Fin 16, '-' ≠ hexDigit n := by decide
  exact hall ⟨n, hn⟩ heq

theorem render_injective {a b : List UInt8} (h : render a = render b) : a = b := by
  have hchars := congrArg (fun s => s.toList.filter (· ≠ '-')) h
  simp only [render, String.toList_ofList] at hchars
  rw [filter_hyphenateChars (hyphen_notMem_encodeChars a),
    filter_hyphenateChars (hyphen_notMem_encodeChars b)] at hchars
  exact Hex.encode_injective (congrArg String.ofList hchars)

structure Groups (cs a b c d e : List Char) : Prop where
  eq : cs = a ++ (b ++ (c ++ (d ++ e)))
  lengths : a.length = 8 ∧ b.length = 4 ∧ c.length = 4 ∧ d.length = 4 ∧ e.length = 12

theorem exists_groups (h : cs.length = 32) : ∃ a b c d e, Groups cs a b c d e := by
  refine ⟨cs.take 8, (cs.drop 8).take 4, (cs.drop 12).take 4, (cs.drop 16).take 4, cs.drop 20, ?_,
    by simp [h]⟩
  rw [group_append_drop cs 16, group_append_drop cs 12, group_append_drop cs 8,
    List.take_append_drop]

section Groups

variable {a b c d e : List Char}

theorem Groups.hyphenateChars_eq (h : Groups cs a b c d e) :
    hyphenateChars cs = a ++ '-' :: (b ++ '-' :: (c ++ '-' :: (d ++ '-' :: e))) := by
  obtain ⟨rfl, ha, hb, hc, hd, -⟩ := h
  simp (disch := omega) [hyphenateChars, List.drop_append, List.drop_eq_nil_of_le, ha, hb, hc]

theorem Groups.unhyphenate?_eq (h : Groups cs a b c d e) :
    unhyphenate? (a ++ '-' :: (b ++ '-' :: (c ++ '-' :: (d ++ '-' :: e)))) = some cs := by
  obtain ⟨rfl, ha, hb, hc, hd, he⟩ := h
  simp (disch := omega) [unhyphenate?, List.drop_append, List.drop_eq_nil_of_le,
    List.getElem?_append, ha, hb, hc, hd, he]
  exact ⟨rfl, rfl, rfl, rfl⟩

end Groups

theorem unhyphenate?_hyphenateChars (h : cs.length = 32) :
    unhyphenate? (hyphenateChars cs) = some cs := by
  obtain ⟨a, b, c, d, e, hgroups⟩ := exists_groups h
  rw [hgroups.hyphenateChars_eq, hgroups.unhyphenate?_eq]

theorem length_hyphenateChars (h : cs.length = 32) : (hyphenateChars cs).length = 36 := by
  obtain ⟨a, b, c, d, e, hgroups⟩ := exists_groups h
  have hlengths := hgroups.lengths
  rw [hgroups.hyphenateChars_eq]
  simp only [List.length_append, List.length_cons]
  omega

theorem grouped_of_hexDigits (h : ∀ c ∈ cs.head?, ∃ n < 16, c = hexDigit n) : grouped cs = cs := by
  have hall : ∀ n : Fin 16, hexDigit n ≠ '{' ∧ hexDigit n ≠ 'u' := by decide
  unfold grouped
  split
  · obtain ⟨n, hn, heq⟩ := h _ rfl
    exact absurd heq.symm (hall ⟨n, hn⟩).1
  · obtain ⟨n, hn, heq⟩ := h _ rfl
    exact absurd heq.symm (hall ⟨n, hn⟩).2
  · rfl

theorem parse?_render (h : bytes.length = 16) : parse? (render bytes) = some bytes := by
  have hlength : (Hex.encodeChars bytes).length = 32 := by rw [Hex.length_encodeChars, h]
  have hgrouped : grouped (hyphenateChars (Hex.encodeChars bytes)) =
      hyphenateChars (Hex.encodeChars bytes) := by
    obtain ⟨b, bytes, rfl⟩ := List.exists_cons_of_length_pos (show 0 < bytes.length by omega)
    refine grouped_of_hexDigits fun c hc => ⟨b.toNat / 16, by have := b.toNat_lt; omega, ?_⟩
    simpa [hyphenateChars, Hex.encodeChars_cons] using hc.symm
  have hne : ¬ (36 = 32) := by decide
  rw [parse?]
  simp only [render, String.toList_ofList, length_hyphenateChars hlength, if_neg hne, hgrouped,
    unhyphenate?_hyphenateChars hlength, Option.bind_some]
  rw [ofDigits?, if_pos hlength, Hex.decodeChars_encodeChars]

theorem length_of_ofDigits? (h : ofDigits? cs = some bytes) : bytes.length = 16 := by
  unfold ofDigits? at h
  split at h
  · have hlength := Hex.length_of_decodeChars h
    omega
  · cases h

theorem length_of_parse? {s : String} (h : parse? s = some bytes) : bytes.length = 16 := by
  simp only [parse?] at h
  split at h
  · exact length_of_ofDigits? h
  · obtain ⟨cs, -, h⟩ := Option.bind_eq_some_iff.mp h
    exact length_of_ofDigits? h

theorem ofNat_injective (hm : m < twoTo 128) (hn : n < twoTo 128) (h : ofNat m = ofNat n) :
    m = n := by
  have hbytes : ∀ i < 16, UInt8.ofNat (m / twoTo (8 * i)) = UInt8.ofNat (n / twoTo (8 * i)) := by
    intro i hi
    have hat := congrArg (fun bytes => bytes[15 - i]?) h
    have hindex : 15 - (15 - i) = i := by omega
    simpa [ofNat, List.getElem?_range (show 15 - i < 16 by omega), hindex] using hat
  have hmod : m % twoTo 128 = n % twoTo 128 := mod_eq_of_bytes hbytes
  rwa [Nat.mod_eq_of_lt hm, Nat.mod_eq_of_lt hn] at hmod

end Uuid

end Fixtures
