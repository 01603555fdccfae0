import Fixtures.Generation.RowKey
import Fixtures.Proofs.Domain.MergedBounds
import Fixtures.Proofs.Generation.FieldValues
import Fixtures.Proofs.Value.Key

namespace Fixtures

theorem Date.day_of_addDays? {d e : Date} {n : Int} (h : d.addDays? n = some e) :
    e.day = d.day + n := by
  unfold addDays? ofDay? at h
  split at h
  · cases h
    rfl
  · cases h

theorem Date.addDays?_injective {d e : Date} {m n : Int} (hm : d.addDays? m = some e)
    (hn : d.addDays? n = some e) : m = n := by
  have := day_of_addDays? hm
  have := day_of_addDays? hn
  omega

namespace Timestamp

variable {t u : Timestamp} {m n : Int}

/-- Seconds up to an instant, which a leap second shares with the second it follows. -/
def total (t : Timestamp) : Int :=
  t.date.day * 86400 + t.second

def start (t : Timestamp) (n : Int) : Int :=
  if t.leap && n < 0 then t.total + 1 else t.total

theorem total_of_addSeconds? (hn : n ≠ 0) (h : t.addSeconds? n = some u) :
    u.total = t.start n + n ∧ u.leap = false := by
  unfold addSeconds? at h
  rw [if_neg hn] at h
  obtain ⟨date, hdate, rfl⟩ := Option.map_eq_some_iff.mp h
  have hday := Date.day_of_addDays? hdate
  refine ⟨?_, rfl⟩
  unfold total start
  dsimp only
  rw [hday]
  split <;> unfold total <;> omega

theorem addSeconds?_injective (hm : t.addSeconds? m = some u) (hn : t.addSeconds? n = some u) :
    m = n := by
  have hzero : t.addSeconds? 0 = some t := if_pos rfl
  have hmoved : ∀ n, n ≠ 0 → t.addSeconds? n = some t → False := by
    intro n hn h
    obtain ⟨htotal, hleap⟩ := total_of_addSeconds? hn h
    unfold start at htotal
    simp only [hleap, Bool.false_and, Bool.false_eq_true, if_false] at htotal
    omega
  by_cases hm0 : m = 0 <;> by_cases hn0 : n = 0
  · rw [hm0, hn0]
  · subst hm0
    rw [hzero, Option.some_inj] at hm
    exact (hmoved n hn0 (hm ▸ hn)).elim
  · subst hn0
    rw [hzero, Option.some_inj] at hn
    exact (hmoved m hm0 (hn ▸ hm)).elim
  · have htotal := (total_of_addSeconds? hm0 hm).1
    have htotal' := (total_of_addSeconds? hn0 hn).1
    unfold start at htotal htotal'
    simp only [Bool.and_eq_true, decide_eq_true_eq] at htotal htotal'
    split at htotal <;> split at htotal' <;> simp_all <;> omega

theorem endsMinute_of_addSeconds? (ht : Calendar.EndsMinute t) (h : t.addSeconds? n = some u) :
    Calendar.EndsMinute u := by
  by_cases hn : n = 0
  · subst hn
    cases h
    exact ht
  · intro hleap
    rw [(total_of_addSeconds? hn h).2] at hleap
    cases hleap

end Timestamp

namespace Generation

variable {p : Primitive} {d : Domain} {topic : Faker.Topic} {field : String} {base : Date}
    {m n : Nat}
  {v w : Value}

theorem int64?_eq_some {a b : Int} (h : int64? a = some b) : a = b := by
  unfold int64? at h
  split at h
  · exact Option.some.inj h
  · cases h

theorem keyedInt?_injective {b : Bounds Float} {i j k : Int} (hi : keyedInt? b i = some k)
    (hj : keyedInt? b j = some k) : i = j := by
  obtain ⟨_ | low, _ | high⟩ := b
  all_goals
    have hik := int64?_eq_some hi
    have hjk := int64?_eq_some hj
    omega

theorem nextOrdinal_of_lt (h : n < maxOrdinal) : nextOrdinal n = n + 1 :=
  Nat.min_eq_left h

theorem toString_natCast_injective {i j : Nat} (h : toString i = toString j) : i = j := by
  refine toDigits_injective ?_
  rw [← Nat.toList_repr, ← Nat.toList_repr]
  exact congrArg String.toList h

theorem keyedText_injective (hm : m < maxOrdinal) (hn : n < maxOrdinal)
    (h : keyedText topic field m = keyedText topic field n) : m = n := by
  unfold keyedText at h
  rw [nextOrdinal_of_lt hm, nextOrdinal_of_lt hn] at h
  dsimp only at h
  split at h
  · have hpadded := (String.append_right_inj _).mp ((String.append_left_inj _).mp h)
    exact Nat.succ.inj (Calendar.padded_injective hpadded)
  · exact Nat.succ.inj (toString_natCast_injective ((String.append_right_inj _).mp h))

theorem keyedDate?_injective {b : Bounds Timestamp} {i j : Int} {e : Date}
    (hi : keyedDate? b base i = some e) (hj : keyedDate? b base j = some e) : i = j := by
  obtain ⟨_ | first, _ | last⟩ := b
  all_goals
    have hij := Date.addDays?_injective hi hj
    omega

theorem keyedTimestamp?_injective {b : Bounds Timestamp} {i j : Int} {t : Timestamp}
    (hi : keyedTimestamp? b base i = some t) (hj : keyedTimestamp? b base j = some t) : i = j := by
  obtain ⟨_ | first, _ | last⟩ := b
  all_goals
    have hij := Timestamp.addSeconds?_injective hi hj
    omega

theorem endsMinute_of_keyedTimestamp? {b : Bounds Timestamp} {i : Int} {t : Timestamp}
    (hb : b.All Calendar.EndsMinute) (h : keyedTimestamp? b base i = some t) :
    Calendar.EndsMinute t := by
  unfold keyedTimestamp? at h
  split at h
  · next hmin => exact Timestamp.endsMinute_of_addSeconds? (hb.min _ hmin) h
  · next hmax => exact Timestamp.endsMinute_of_addSeconds? (hb.max _ hmax) h
  · exact Timestamp.endsMinute_of_addSeconds? (Calendar.endsMinute_midnight base) h

/-- Types whose keys are told apart by their texts whatever the bounds are. Fractions are not among
them: far from zero the next one can be the same. -/
def countedTypes : List Primitive :=
  [.integer, .string, .date, .timestamp]

theorem countedValue?_injective (hp : p ∈ countedTypes) (hm : m < maxOrdinal) (hn : n < maxOrdinal)
    (hv : countedValue? p d topic field m base = some v)
    (hw : countedValue? p d topic field n base = some v) :
    m = n := by
  cases p
  case integer =>
    obtain ⟨i, hi, rfl⟩ := Option.map_eq_some_iff.mp hv
    obtain ⟨j, hj, heq⟩ := Option.map_eq_some_iff.mp hw
    cases heq
    obtain ⟨m', hm', hi⟩ := Option.bind_eq_some_iff.mp hi
    obtain ⟨n', hn', hj⟩ := Option.bind_eq_some_iff.mp hj
    have hsame := keyedInt?_injective hi hj
    have := int64?_eq_some hm'
    have := int64?_eq_some hn'
    omega
  case string =>
    cases hv
    exact keyedText_injective hm hn (Value.text.inj (Option.some.inj hw)).symm
  case date =>
    obtain ⟨e, he, rfl⟩ := Option.map_eq_some_iff.mp hv
    obtain ⟨e', he', heq⟩ := Option.map_eq_some_iff.mp hw
    cases heq
    exact Int.ofNat.inj (keyedDate?_injective he he')
  case timestamp =>
    obtain ⟨t, ht, rfl⟩ := Option.map_eq_some_iff.mp hv
    obtain ⟨u, hu, heq⟩ := Option.map_eq_some_iff.mp hw
    cases heq
    obtain ⟨m', hm', ht⟩ := Option.bind_eq_some_iff.mp ht
    obtain ⟨n', hn', hu⟩ := Option.bind_eq_some_iff.mp hu
    have hsame := keyedTimestamp?_injective ht hu
    have := int64?_eq_some hm'
    have := int64?_eq_some hn'
    omega
  all_goals exact absurd hp (by decide)

theorem countedValue?_of_keyedValue? (h : keyedValue? p d topic field n base = some v) :
    countedValue? p d topic field n base = some v :=
  (Option.filter_eq_some_iff.mp h).1

theorem legible_of_keyedValue? (hp : p ∈ countedTypes) (hd : d.temporal.All Calendar.EndsMinute)
    (h : keyedValue? p d topic field n base = some v) : v.Legible := by
  have h := countedValue?_of_keyedValue? h
  cases p
  case integer =>
    obtain ⟨i, -, rfl⟩ := Option.map_eq_some_iff.mp h
    trivial
  case string =>
    cases h
    trivial
  case date =>
    obtain ⟨e, -, rfl⟩ := Option.map_eq_some_iff.mp h
    trivial
  case timestamp =>
    obtain ⟨t, ht, rfl⟩ := Option.map_eq_some_iff.mp h
    obtain ⟨i, -, ht⟩ := Option.bind_eq_some_iff.mp ht
    exact endsMinute_of_keyedTimestamp? hd ht
  all_goals exact absurd hp (by decide)

theorem ordinal_eq_of_key_eq (hp : p ∈ countedTypes) (hd : d.temporal.All Calendar.EndsMinute)
    (hm : m < maxOrdinal) (hn : n < maxOrdinal) (hv : keyedValue? p d topic field m base = some v)
    (hw : keyedValue? p d topic field n base = some w) (hkey : v.key = w.key) : m = n := by
  have hkind : v.kind? = w.kind? := (kind?_of_keyedValue? hv).trans (kind?_of_keyedValue? hw).symm
  have hv' := legible_of_keyedValue? hp hd hv
  have hw' := legible_of_keyedValue? hp hd hw
  obtain rfl := Value.eq_of_key_eq hv' hw' hkind hkey
  exact countedValue?_injective hp hm hn (countedValue?_of_keyedValue? hv)
    (countedValue?_of_keyedValue? hw)

section Ranges

open Binary64 Domain

variable {cs : List Constraint} {lo : Int}

theorem lowerInt_ofInt {a : Int} (ha : a.natAbs ≤ twoTo 64) :
    lowerInt (Float.ofInt (nearest a)) = clampInt64 (nearest a) := by
  have hle := natAbs_nearest_le ha
  rw [lowerInt, ceil_ofInt hle, nearest_nearest ha, toInt64_ofInt hle, nearest_nearest ha]

theorem isInt64_of_beginsAt (hcs : AreIntRanges cs) (hlo : BeginsAt cs lo) : isInt64 lo = true := by
  obtain ⟨high, hc⟩ := hlo.declared
  obtain ⟨low, _, heq, hlow, -⟩ := hcs _ hc rfl
  cases heq
  exact isInt64_of_mem_intBound? hlow rfl

theorem keyedInt?_of_beginsAt (h : build (.primitive .integer) cs = .ok d) (hcs : AreIntRanges cs)
    (hlo : BeginsAt cs lo) (i : Int) :
    keyedInt? d.numeric i = int64? (clampInt64 (nearest lo) + i) := by
  have hmin := numeric_min_of_build h hcs hlo
  unfold keyedInt?
  rw [hmin]
  dsimp only
  rw [lowerInt_ofInt (natAbs_le (isInt64_of_beginsAt hcs hlo))]

theorem eq_int_of_keyedValue? (h : build (.primitive .integer) cs = .ok d) (hcs : AreIntRanges cs)
    (hlo : BeginsAt cs lo) (hv : keyedValue? .integer d topic field n base = some v) :
    v = .int (clampInt64 (nearest lo) + n) := by
  obtain ⟨k, hk, rfl⟩ := Option.map_eq_some_iff.mp (countedValue?_of_keyedValue? hv)
  obtain ⟨i, hi, hk⟩ := Option.bind_eq_some_iff.mp hk
  rw [keyedInt?_of_beginsAt h hcs hlo, ← int64?_eq_some hi] at hk
  rw [int64?_eq_some hk]

theorem clampInt64_of_isInt64 {a : Int} (ha : isInt64 a = true) : clampInt64 a = a := by
  simp only [isInt64, Bool.and_eq_true, decide_eq_true_eq] at ha
  unfold clampInt64
  omega

theorem clampInt64_nearest (hcs : AreIntRanges cs) (hlo : BeginsAt cs lo)
    (hsmall : lo.natAbs ≤ twoTo 53) :
    clampInt64 (nearest lo) = lo := by
  rw [nearest_of_le hsmall, clampInt64_of_isInt64 (isInt64_of_beginsAt hcs hlo)]

/-- A number that leads from where ranges begin to no integer beyond one of them. -/
structure StaysWithin (cs : List Constraint) (lo : Int) (n : Nat) : Prop where
  number : isInt64 n = true
  integer : isInt64 (lo + n) = true
  within : ∀ low high, .range low high ∈ cs → ∀ b ∈ intBound? high, lo + n ≤ b

/-- Within ranges that begin at an integer of at most 53 bits there is a key for each number. -/
theorem keyedValue?_of_beginsAt (h : build (.primitive .integer) cs = .ok d) (hcs : AreIntRanges cs)
    (hlo : BeginsAt cs lo) (hsmall : lo.natAbs ≤ twoTo 53) (hn : StaysWithin cs lo n) :
    keyedValue? .integer d topic field n base = some (.int (lo + n)) := by
  have hadmits : d.admits (.int (lo + n)) = true := by
    refine (admits_int_iff h hcs hn.integer).mpr fun low high hc => ⟨fun a ha => ?_, fun b hb => ?_⟩
    · have hle := hlo.greatest low high hc a ha
      exact nearest_mono (by omega)
    · exact nearest_mono (hn.within low high hc b hb)
  refine Option.filter_eq_some_iff.mpr ⟨?_, hadmits⟩
  have hsome : ∀ {a : Int}, isInt64 a = true → int64? a = some a := fun ha => if_pos ha
  show ((int64? n).bind (keyedInt? d.numeric)).map Value.int = _
  rw [hsome hn.number, Option.bind_some, keyedInt?_of_beginsAt h hcs hlo,
    clampInt64_nearest hcs hlo hsmall, hsome hn.integer, Option.map_some]

end Ranges

end Generation

end Fixtures
