import Mathlib.Tactic.IntervalCases
import Fixtures.Proofs.Encoding.Bytes
import Fixtures.Proofs.Generation.RowKeyedTables
import Fixtures.Proofs.Json.Text

namespace Fixtures.Generation

open Binary64 ValueRequest

variable {s : Schema} {o : Options} {m : Model} {order : List String} {t : Model.Table}
    {plan : TablePlan}
  {i row row' attempt : Nat} {type : Primitive} {start step a b : Int} {p : FieldPlan}
  {f : Model.Field}
  {field : String} {base : Date} {values : List Value}

def endlessTypes : List Primitive :=
  [.integer, .string, .uuid, .binary, .json]

/-- Numbers at which the values of a sequence are the same: equal ones, and opposite ones for
identifiers. -/
def Coincide (type : Primitive) (a b : Int) : Prop :=
  a = b ∨ type = .uuid ∧ a = -b

theorem render_ofNat_eq_iff (ha : isInt64 a = true) (hb : isInt64 b = true) :
    Uuid.render (Uuid.ofNat a.natAbs) = Uuid.render (Uuid.ofNat b.natAbs) ↔ a = b ∨ a = -b := by
  have hwide : twoTo 64 < twoTo 128 := by decide
  rw [← Int.natAbs_eq_natAbs_iff]
  constructor
  · intro h
    exact Uuid.ofNat_injective (Nat.lt_of_le_of_lt (natAbs_le ha) hwide)
      (Nat.lt_of_le_of_lt (natAbs_le hb) hwide) (Uuid.render_injective h)
  · intro h
    rw [h]

theorem eq_of_word_eq (ha : isInt64 a = true) (hb : isInt64 b = true)
    (h : a % twoTo 64 = b % twoTo 64) :
    a = b := by
  have htwoTo : (twoTo 64 : Int) = 18446744073709551616 := rfl
  rw [isInt64_iff] at ha hb
  rw [htwoTo] at h
  omega

theorem bytesOfInt64_injective (ha : isInt64 a = true) (hb : isInt64 b = true)
    (h : bytesOfInt64 a = bytesOfInt64 b) : a = b := by
  have hbytes : ∀ i < 8, UInt8.ofNat ((a % twoTo 64).toNat / twoTo (8 * i)) =
      UInt8.ofNat ((b % twoTo 64).toNat / twoTo (8 * i)) := by
    intro i hi
    unfold bytesOfInt64 at h
    exact List.map_inj_left.mp h i (by simpa using hi)
  have hword : (a % twoTo 64).toNat % twoTo 64 = (b % twoTo 64).toNat % twoTo 64 :=
    mod_eq_of_bytes hbytes
  have hpos : (0 : Int) < twoTo 64 := by decide
  have hlt : ∀ n : Int, (n % twoTo 64).toNat < twoTo 64 := fun n =>
    (Int.toNat_lt (Int.emod_nonneg n hpos.ne')).mpr (Int.emod_lt_of_pos n hpos)
  rw [Nat.mod_eq_of_lt (hlt a), Nat.mod_eq_of_lt (hlt b)] at hword
  refine eq_of_word_eq ha hb ?_
  rw [← Int.toNat_of_nonneg (Int.emod_nonneg a hpos.ne'), hword,
    Int.toNat_of_nonneg (Int.emod_nonneg b hpos.ne')]

theorem counter_injective
    (h : (Json.object [("seq", .int a)]).compact = (Json.object [("seq", .int b)]).compact) :
    a = b := by
  have hfinite : ∀ n, (Json.object [("seq", .int n)]).IsFinite := fun n => by
    refine .object fun member hmember => ?_
    rw [List.mem_singleton.mp hmember]
    exact .int n
  simpa using Json.compact_injective (hfinite a) (hfinite b) h

/-- Without bounds there is a value at every number, and two of them have the same text where the
numbers coincide. -/
theorem sequentialValue_key_eq_iff (field : String) (base : Date) (htype : type ∈ endlessTypes)
    (ha : isInt64 a = true) (hb : isInt64 b = true) :
    ∃ v w, sequentialValue type .unbounded field a base = .ok v ∧
      sequentialValue type .unbounded field b base = .ok w ∧
        (v.key = w.key ↔ Coincide type a b) := by
  simp only [endlessTypes, List.mem_cons, List.not_mem_nil, or_false] at htype
  rcases htype with rfl | rfl | rfl | rfl | rfl <;> refine ⟨_, _, rfl, rfl, ?_⟩
  all_goals simp only [Coincide, reduceCtorEq, false_and, or_false, true_and]
  · exact ⟨fun h => toString_injective h, fun h => by rw [h]⟩
  · exact ⟨fun h => toString_injective ((String.append_right_inj _).mp h), fun h => by rw [h]⟩
  · exact render_ofNat_eq_iff ha hb
  · exact ⟨fun h => bytesOfInt64_injective ha hb (Hex.encode_injective h), fun h => by rw [h]⟩
  · exact ⟨fun h => counter_injective h, fun h => by rw [h]⟩

theorem signedRow_injective (hrow : row < twoTo 64) (hrow' : row' < twoTo 64)
    (h : signedRow row = signedRow row') : row = row' := by
  have htwoTo : twoTo 64 = 18446744073709551616 := rfl
  unfold signedRow at h
  rw [Int.bmod_eq_emod, Int.bmod_eq_emod, htwoTo] at h
  rw [htwoTo] at hrow hrow'
  split at h <;> split at h <;> omega

/-- A row whose number in a sequence is reached without an overflow, neither of the product nor of
the sum. -/
structure Reached (start step : Int) (row : Nat) : Prop where
  word : row < twoTo 64
  product : isInt64 (signedRow row * step) = true
  sum : isInt64 (start + signedRow row * step) = true

theorem Reached.sequenceNumber (h : Reached start step row) :
    sequenceNumber start step row = start + signedRow row * step := by
  unfold ValueRequest.sequenceNumber
  rw [clampInt64_of_isInt64 h.product, clampInt64_of_isInt64 h.sum]

theorem Reached.number_injective (h : Reached start step row) (h' : Reached start step row')
    (hstep : step ≠ 0)
    (heq : start + signedRow row * step = start + signedRow row' * step) : row = row' :=
  signedRow_injective h.word h'.word (Int.eq_of_mul_eq_mul_right hstep (Int.add_left_cancel heq))

/-- A key member with values of a sequence: it is in no foreign key, and no enum, pattern or bounds
of numbers take part. -/
structure SequenceMember (t : Model.Table) (plan : TablePlan) (i : Nat) (type : Primitive)
  (start step : Int)
    (p : FieldPlan) (f : Model.Field) : Prop extends KeyMember t plan i type p f where
  strategy : p.strategy = .sequential start step
  foreignKey : p.foreignKey = none
  pattern : p.pattern = none
  allowed : f.domain.allowed = none
  unbounded : f.domain.numeric = .unbounded

def AdmitsNumber (o : Options) (f : Model.Field) (type : Primitive) (n : Int) : Prop :=
  ∀ v, sequentialValue type .unbounded f.name n o.baseDate = .ok v → f.domain.admits v = true

section Rows

variable (hcompile : s.compile = .ok (m, order)) (ht : t ∈ m.tables)
  (hplan : TablePlan.ofTable o t = .ok plan) (h : SequenceMember t plan i type start step p f)
  {references : References} {seed : UInt64} {v : Value}
include hcompile ht hplan h

theorem SequenceMember.candidate (hreached : Reached start step row)
    (hv : sequentialValue type .unbounded f.name (start + signedRow row * step) o.baseDate =
      .ok v) :
    ((TableJob.mk t plan references o seed).request row attempt p f).candidate true = pure v := by
  have hterminal := (Domain.isOf_of_build (h.build hcompile ht)).terminal
  have hrow : p.rowKeyed = false := by
    have hmem : (p, f) ∈ plan.fields.zip t.fields :=
      List.mem_of_getElem? (List.getElem?_zip_eq_some.mpr ⟨h.plan, h.field⟩)
    rw [Bool.eq_false_iff, ne_eq, rowKeyed_iff hplan hmem, h.strategy]
    simp [Strategy.isSequential]
  unfold ValueRequest.candidate derivedValue? defaultValue? typedValue element strategyValue
    TableJob.request
  simp only [hrow, h.strategy, hterminal, h.allowed, h.pattern, h.unbounded,
    hreached.sequenceNumber, hv]
  rfl

theorem SequenceMember.exists_value (hreached : Reached start step row)
    (hadmits : AdmitsNumber o f type (start + signedRow row * step))
    (hvalues : (TableJob.mk t plan references o seed).rowValues row attempt = .ok values)
    (hv : sequentialValue type .unbounded f.name (start + signedRow row * step) o.baseDate =
      .ok v) :
    values[i]? = some v := by
  obtain ⟨picks, hattempted⟩ := TableJob.attempted_of_rowValues hvalues
  obtain ⟨w, hw⟩ := exists_getElem?_of_length (hattempted.length_values (isOf_of_ofTable hplan))
    h.field
  have hrefusal : f.domain.refusal? v = none := by
    simpa [Domain.admits] using hadmits v hv
  rw [hw, TableJob.eq_of_value hvalues h.plan h.field h.foreignKey (h.nullable hplan)
    (ValueRequest.value_succ (h.candidate hcompile ht hplan hreached hv) hrefusal) hw]

end Rows

/-- Different rows of a table whose numbers are reached have different keys in a member with values
of a sequence, unless these are identifiers at opposite numbers. -/
def SequencesApart (o : Options) (t : Model.Table) (plan : TablePlan) : Prop :=
  ∀ i type start step p f, SequenceMember t plan i type start step p f → type ∈ endlessTypes →
  step ≠ 0 →
    ∀ references seed row row' attempt attempt' values values', row ≠ row' →
      Reached start step row → Reached start step row' →
      AdmitsNumber o f type (start + signedRow row * step) →
      AdmitsNumber o f type (start + signedRow row' * step) →
      (TableJob.mk t plan references o seed).rowValues row attempt = .ok values →
      (TableJob.mk t plan references o seed).rowValues row' attempt' = .ok values' →
        ∃ k k', KeyColumn.keyOf? [i] values = some k ∧ KeyColumn.keyOf? [i] values' = some k' ∧
          (k = k' ↔ type = .uuid ∧ start + signedRow row * step = -(start + signedRow row' * step))

theorem sequencesApart (hcompile : s.compile = .ok (m, order)) (ht : t ∈ m.tables)
    (hplan : TablePlan.ofTable o t = .ok plan) : SequencesApart o t plan := by
  intro i type start step p f h htype hstep references seed row row' attempt attempt' values values'
    hne
    hreached hreached' hadmits hadmits' hvalues hvalues'
  obtain ⟨v, w, hv, hw, hkeys⟩ :=
    sequentialValue_key_eq_iff f.name o.baseDate htype hreached.sum hreached'.sum
  have hnotNull : ∀ {n v}, sequentialValue type .unbounded f.name n o.baseDate = .ok v →
      v ≠ .null := by
    rintro n v hv rfl
    cases kind?_of_sequentialValue hv
  have hat := h.exists_value hcompile ht hplan hreached hadmits hvalues hv
  have hat' := h.exists_value hcompile ht hplan hreached' hadmits' hvalues' hw
  refine ⟨v.key, w.key, KeyColumn.keyOf?_singleton hat (hnotNull hv),
    KeyColumn.keyOf?_singleton hat' (hnotNull hw), hkeys.trans ⟨fun hcoincide => ?_, .inr⟩⟩
  rcases hcoincide with heq | hopposite
  · exact absurd (hreached.number_injective hreached' hstep heq) hne
  · exact hopposite

/-- Values of a sequence that are identifiers take no account of the sign of their number, and
repeat at its opposite. Otherwise values at different numbers have different texts, and so have the
keys of different rows. -/
theorem sequence_keys_coincide (field : String) (base : Date) (s : Schema) (o : Options) :
    (∀ type ∈ endlessTypes, ∀ a b, isInt64 a = true → isInt64 b = true →
      ∃ v w, sequentialValue type .unbounded field a base = .ok v ∧
        sequentialValue type .unbounded field b base = .ok w ∧
          (v.key = w.key ↔ Coincide type a b)) ∧
    ∀ m order t plan, s.compile = .ok (m, order) → t ∈ m.tables →
      TablePlan.ofTable o t = .ok plan → SequencesApart o t plan :=
  ⟨fun _ htype _ _ ha hb => sequentialValue_key_eq_iff field base htype ha hb,
    fun _ _ _ _ hcompile ht hplan => sequencesApart hcompile ht hplan⟩

def reelSchema (type : Primitive) (start step : Int) (count : Nat) : Schema :=
  { name := "reel"
    tables := [{
      name := "frame"
      fields := [{ name := "id", dataType := .primitive type, constraints :=
        [.primaryKey none []] }]
      directive := some {
        count := some count
        strategy := StrategyKind.sequential.name
        options := [("start", .int start), ("step", .int step)] } }] }

instance (s : Strategy) (start step : Int) : Decidable (s = .sequential start step) :=
  match s with
  | .sequential a b =>
    decidable_of_iff (a = start ∧ b = step) (Strategy.sequential.injEq a b start step ▸ Iff.rfl)
  | .faker .. | .random | .pattern .. | .default => isFalse Strategy.noConfusion

/-- Three frames from minus one on: the first and the last have the same identifier, and the one
between them has another one. -/
theorem sequence_keys_coincide_reel : ∃ m order t plan first second third,
    (reelSchema .uuid (-1) 1 3).compile = .ok (m, order) ∧ t ∈ m.tables ∧
      TablePlan.ofTable {} t = .ok plan ∧
      (TableJob.mk t plan {} {} 0).rowValues 0 1 = .ok first ∧
      (TableJob.mk t plan {} {} 0).rowValues 1 1 = .ok second ∧
      (TableJob.mk t plan {} {} 0).rowValues 2 1 = .ok third ∧
      KeyColumn.keyOf? [0] first = KeyColumn.keyOf? [0] third ∧
      KeyColumn.keyOf? [0] first ≠ KeyColumn.keyOf? [0] second := by
  have hcompile : (reelSchema .uuid (-1) 1 3).compile.toOption.isSome := by
    decide +kernel
  have hkeys : ∀ compiled ∈ (reelSchema .uuid (-1) 1 3).compile.toOption, ∃ t ∈ compiled.1.tables,
      ∃ plan ∈ (TablePlan.ofTable {} t).toOption, ∃ p ∈ plan.fields[0]?, ∃ f ∈ t.fields[0]?,
        IsKeyMember t f ∧ f.terminal = .primitive .uuid ∧ p.strategy = .sequential (-1) 1 ∧
          p.foreignKey = none ∧ p.pattern.isNone ∧ f.domain.allowed.isNone ∧
          f.domain.numeric.min.isNone ∧ f.domain.numeric.max.isNone ∧
          (∀ n ∈ [-1, 0, 1],
            ∀ v ∈ (sequentialValue .uuid .unbounded f.name n ({} : Options).baseDate).toOption,
            f.domain.admits v = true) ∧
          ∀ row < 3, ((TableJob.mk t plan {} {} 0).rowValues row 1).toOption.isSome := by
    decide +kernel
  obtain ⟨⟨m, order⟩, hsome⟩ := Option.isSome_iff_exists.mp hcompile
  obtain ⟨t, ht, plan, hplan, p, hp, f, hf, hkey, htype, hstrategy, hforeign, hpattern, hallowed,
    hmin, hmax, hadmits, hvalues⟩ := hkeys _ hsome
  have hok := toOption_eq_some.mp hsome
  have hplan := toOption_eq_some.mp hplan
  have hunbounded : f.domain.numeric = .unbounded :=
    congrArg₂ Bounds.mk (Option.isNone_iff_eq_none.mp hmin) (Option.isNone_iff_eq_none.mp hmax)
  have hmember : SequenceMember t plan 0 .uuid (-1) 1 p f :=
    ⟨⟨hp, hf, hkey, htype⟩, hstrategy, hforeign, Option.isNone_iff_eq_none.mp hpattern,
      Option.isNone_iff_eq_none.mp hallowed, hunbounded⟩
  have hreached : ∀ row < 3, Reached (-1) 1 row := by
    intro row hrow
    interval_cases row <;> exact ⟨by decide, by decide, by decide⟩
  have hadmitted : ∀ row < 3, AdmitsNumber {} f .uuid (-1 + signedRow row * 1) := by
    intro row hrow v hv
    refine hadmits _ ?_ v (toOption_eq_some.mpr hv)
    interval_cases row <;> decide
  have hrow : ∀ row < 3, ∃ values, (TableJob.mk t plan {} {} 0).rowValues row 1 = .ok values := by
    intro row hrow
    obtain ⟨values, h⟩ := Option.isSome_iff_exists.mp (hvalues row hrow)
    exact ⟨values, toOption_eq_some.mp h⟩
  obtain ⟨first, hfirst⟩ := hrow 0 (by decide)
  obtain ⟨second, hsecond⟩ := hrow 1 (by decide)
  obtain ⟨third, hthird⟩ := hrow 2 (by decide)
  obtain ⟨-, hschema⟩ :=
    sequence_keys_coincide "id" ({} : Options).baseDate (reelSchema .uuid (-1) 1 3) {}
  have hapart := hschema _ _ _ _ hok ht hplan 0 .uuid (-1) 1 p f hmember (by decide) (by decide)
    {} 0
  obtain ⟨k, k', hk, hk', hsame⟩ := hapart 0 2 1 1 first third (by decide) (hreached 0 (by decide))
    (hreached 2 (by decide)) (hadmitted 0 (by decide)) (hadmitted 2 (by decide)) hfirst hthird
  obtain ⟨l, l', hl, hl', hother⟩ :=
    hapart 0 1 1 1 first second (by decide) (hreached 0 (by decide))
    (hreached 1 (by decide)) (hadmitted 0 (by decide)) (hadmitted 1 (by decide)) hfirst hsecond
  refine ⟨m, order, t, plan, first, second, third, hok, ht, hplan, hfirst, hsecond, hthird, ?_, ?_⟩
  · rw [hk, hk', hsame.mpr ⟨rfl, by decide⟩]
  · rw [hl, hl', ne_eq, Option.some.injEq, hother]
    decide

/-- Frames cannot have identifiers at opposite numbers. Nor can they have numbers where the multiple
of the step is too large although the sum is not. -/
theorem opposite_numbers_collide :
    (∃ v, sequentialValue .uuid .unbounded "id" 1 ({} : Options).baseDate = .ok v ∧
      sequentialValue .uuid .unbounded "id" (-1) ({} : Options).baseDate = .ok v) ∧
    error? (Generation.run (reelSchema .uuid (-1) 1 3) {} 0) =
      some (.unsatisfiable "frame" "id" "primary key(id)") ∧
    error? (Generation.run (reelSchema .integer minInt64 (twoTo 62) 4) {} 0) =
      some (.unsatisfiable "frame" "id" "primary key(id)") := by
  have hopposite : error? (Generation.run (reelSchema .uuid (-1) 1 3) {} 0) =
      some (.unsatisfiable "frame" "id" "primary key(id)") := by
    decide +kernel
  have hmultiple : error? (Generation.run (reelSchema .integer minInt64 (twoTo 62) 4) {} 0) =
      some (.unsatisfiable "frame" "id" "primary key(id)") := by
    decide +kernel
  exact ⟨⟨_, rfl, rfl⟩, hopposite, hmultiple⟩

end Fixtures.Generation
