import Fixtures.Proofs.Calendar.Text
import Fixtures.Proofs.Encoding.Bytes
import Fixtures.Proofs.Numeric.Digits
import Fixtures.Proofs.Text.Joined
import Fixtures.Proofs.Value.Kind

namespace Fixtures.Value

variable {v w : Value} {vs ws : List Value}

/-- Values that are told from all others of their built-in type by their text. Fractions and
documents are not looked into. -/
def Legible : Value → Prop
  | bool _ | int _ | text _ | uuid _ | date _ | binary _ => True
  | timestamp t => Calendar.EndsMinute t
  | null | decimal _ | json _ | array _ => False

theorem eq_of_key_eq (hv : v.Legible) (hw : w.Legible) (hkind : v.kind? = w.kind?)
    (h : v.key = w.key) :
    v = w := by
  cases v <;> cases w <;> simp only [kind?, Option.some.injEq, reduceCtorEq] at hkind <;>
    simp only [Legible] at hv hw <;> simp only [key] at h
  case bool.bool a b => cases a <;> cases b <;> first | rfl | exact absurd h (by decide)
  case int.int a b => rw [toString_injective h]
  case text.text a b => rw [h]
  case uuid.uuid a b => rw [h]
  case date.date d e => rw [Calendar.dateText_injective h]
  case timestamp.timestamp t u => rw [Calendar.timestampText_injective hv hw h]
  case binary.binary a b => rw [Hex.encode_injective h]

/-- A literal stands for a value that is told from all others of its type, unless it is a fraction
or a document. -/
theorem legible_of_ofLiteral? {p : Primitive} {l : Literal} (h : ofLiteral? p l = some v)
    (hnull : l ≠ .null) (hdecimal : p ≠ .decimal) (hjson : p ≠ .json) : v.Legible := by
  cases l with
  | null => exact absurd rfl hnull
  | bool b => cases p <;> first | contradiction | (cases h; trivial)
  | int n => cases p <;> first | contradiction | (cases h; trivial)
  | decimal x => cases p <;> contradiction
  | text s =>
    cases p <;> simp only [ofLiteral?, ofText?, Option.map_eq_some_iff, Option.some.injEq,
      reduceCtorEq] at h
    case timestamp =>
      obtain ⟨t, ht, rfl⟩ := h
      exact Calendar.endsMinute_of_parseTimestamp? ht
    case string => subst h; trivial
    case json => contradiction
    all_goals
      obtain ⟨_, -, rfl⟩ := h
      trivial

/-- Elements of an array that are told from all others of their type where commas separate them. -/
def LegibleItem (v : Value) : Prop :=
  v.Legible ∧ ',' ∉ v.key.toList ∧ v.key.toList ≠ []

theorem keys_eq_map (vs : List Value) : keys vs = vs.map key := by
  induction vs with
  | nil => rfl
  | cons v vs ih => rw [keys, ih, List.map_cons]

theorem eq_of_keys_eq {p : Primitive} (hv : ∀ v ∈ vs, v.Legible ∧ v.kind? = some p)
    (hw : ∀ w ∈ ws, w.Legible ∧ w.kind? = some p) (h : vs.map key = ws.map key) : vs = ws := by
  induction vs generalizing ws with
  | nil => exact (List.map_eq_nil_iff.mp h.symm).symm
  | cons v vs ih =>
    cases ws with
    | nil => cases h
    | cons w ws =>
      rw [List.map_cons, List.map_cons, List.cons.injEq] at h
      obtain ⟨hv, hvs⟩ := List.forall_mem_cons.mp hv
      obtain ⟨hw, hws⟩ := List.forall_mem_cons.mp hw
      rw [eq_of_key_eq hv.1 hw.1 (hv.2.trans hw.2.symm) h.1, ih hvs hws h.2]

theorem toList_key_array (vs : List Value) : (array vs).key.toList =
    '[' :: ([','].intercalate (vs.map fun v => v.key.toList) ++ [']']) := by
  simp [key, keys_eq_map, Text.joined, String.toList_intercalate, Function.comp_def]

/-- Values of types that are told from all others of their type by their text. -/
def Told : Value → Prop
  | array items => ∀ v ∈ items, v.LegibleItem
  | v => v.Legible

theorem eq_of_key_eq_of_hasType {t : Terminal} (hv : v.HasType t) (hw : w.HasType t) (hv' : v.Told)
    (hw' : w.Told) (h : v.key = w.key) : v = w := by
  cases t with
  | primitive p =>
    have hkind : v.kind? = w.kind? := hv.trans hw.symm
    refine eq_of_key_eq ?_ ?_ hkind h
    · cases v <;> first | exact hv' | cases hv
    · cases w <;> first | exact hw' | cases hw
  | array p length =>
    obtain ⟨vs, rfl, hvs, -⟩ := hv
    obtain ⟨ws, rfl, hws, -⟩ := hw
    have hlists := congrArg String.toList h
    rw [toList_key_array, toList_key_array, List.cons.injEq] at hlists
    have hjoined := (List.append_inj' hlists.2 rfl).1
    have hapart : ∀ us : List Value, (∀ u ∈ us, u.LegibleItem) →
        ∀ x ∈ us.map fun u => u.key.toList, ',' ∉ x ∧ x ≠ [] := by
      intro us hus x hx
      obtain ⟨u, hu, rfl⟩ := List.mem_map.mp hx
      exact (hus u hu).2
    have hchars := Text.eq_of_intercalate_eq_of_ne_nil (hapart vs hv') (hapart ws hw') hjoined
    have htexts : (vs.map key).map String.toList = (ws.map key).map String.toList := by
      simpa [Function.comp_def] using hchars
    have hkeys : vs.map key = ws.map key :=
      (List.map_inj_right fun _ _ heq => String.toList_injective heq).mp htexts
    rw [eq_of_keys_eq (fun v hv => ⟨(hv' v hv).1, hvs v hv⟩)
      (fun w hw => ⟨(hw' w hw).1, hws w hw⟩) hkeys]

def barless : List Primitive :=
  [.boolean, .integer, .decimal, .date, .timestamp, .binary]

theorem bar_notMem_key {p : Primitive} (hp : p ∈ barless) (hv : v.kind? = some p) :
    '|' ∉ v.key.toList := by
  intro hbar
  cases v <;> simp only [kind?, Option.some.injEq, reduceCtorEq] at hv <;> subst hv <;>
    simp only [key] at hbar
  case bool b => cases b <;> exact absurd hbar (by decide)
  case int n => rcases isIntegerMark_of_mem_toString hbar with h | h <;> exact absurd h (by decide)
  case decimal x =>
    rcases Decimal.isDecimalMark_of_mem_plain hbar with h | h <;> exact absurd h (by decide)
  case date d =>
    rcases Calendar.isDateMark_of_mem_dateText hbar with h | h | h <;> exact absurd h (by decide)
  case timestamp t =>
    rcases Calendar.isTimestampMark_of_mem_timestampText hbar with (h | h | h) | h | h <;>
      exact absurd h (by decide)
  case binary bytes =>
    obtain ⟨n, hn, heq⟩ := Hex.isLowerHex_of_mem_encode hbar
    have hall : ∀ n : Fin 16, '|' ≠ Text.hexDigit n := by decide
    exact hall ⟨n, hn⟩ heq
  all_goals exact absurd hp (by decide)

theorem bar_notMem_key_of_hasType {t : Terminal} (ht : t.element ∈ barless) (hv : v.HasType t) :
    '|' ∉ v.key.toList := by
  cases t with
  | primitive p => exact bar_notMem_key ht hv
  | array p length =>
    obtain ⟨items, rfl, hitems, -⟩ := hv
    intro hbar
    simp only [toList_key_array, List.mem_cons, List.mem_append, List.not_mem_nil, or_false] at hbar
    rcases hbar with h | h | h
    · exact absurd h (by decide)
    · rcases Text.eq_or_exists_of_mem_intercalate h with h | ⟨x, hx, hbar⟩
      · exact absurd h (by decide)
      · obtain ⟨item, hitem, rfl⟩ := List.mem_map.mp hx
        exact bar_notMem_key ht (hitems item hitem) hbar
    · exact absurd h (by decide)

end Fixtures.Value
