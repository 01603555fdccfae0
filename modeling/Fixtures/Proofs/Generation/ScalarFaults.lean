import Fixtures.Generation.Batch
import Fixtures.Generation.Options
import Fixtures.Generation.Sequence
import Fixtures.Generation.TextPattern
import Fixtures.Proofs.Outcome
import Fixtures.Proofs.Random.Draw

namespace Fixtures

open Fixtures.Random

namespace Regex.Sampler

theorem isTotal_drawCount (counts : List Count) : IsTotal (drawCount counts) := by
  induction counts with
  | nil => exact faultsOnly_pure 1
  | cons count counts ih =>
    cases count with
    | exactly n => exact ih.bind fun _ => faultsOnly_pure _
    | between least most =>
      exact (isTotal_evenly _).bind fun _ => ih.bind fun _ => faultsOnly_pure _

theorem isTotal_repeatDraw {draw : Draw (List Char)} (h : IsTotal draw) (n : Nat) :
    IsTotal (repeatDraw draw n) := by
  induction n with
  | zero => exact faultsOnly_pure []
  | succ n ih => exact h.bind fun _ => ih.bind fun _ => faultsOnly_pure _

mutual

theorem isTotal_draw (s : Sampler) : IsTotal s.draw :=
  match s with
  | .text _ => faultsOnly_pure _
  | .member _ => (isTotal_evenly _).bind fun _ => faultsOnly_pure _
  | .inOrder parts => isTotal_drawAll parts
  | .oneOf choices => (isTotal_evenly _).bind fun i => isTotal_drawNth choices i
  | .repeated counts part =>
    (isTotal_drawCount counts).bind fun n => isTotal_repeatDraw (isTotal_draw part) n

theorem isTotal_drawAll (parts : List Sampler) : IsTotal (drawAll parts) :=
  match parts with
  | [] => faultsOnly_pure _
  | s :: ss => (isTotal_draw s).bind fun _ => (isTotal_drawAll ss).bind fun _ => faultsOnly_pure _

theorem isTotal_drawNth (choices : List Sampler) (i : Nat) : IsTotal (drawNth choices i) :=
  match choices, i with
  | [], _ => faultsOnly_pure _
  | s :: _, 0 => isTotal_draw s
  | _ :: ss, i + 1 => isTotal_drawNth ss i

end

end Regex.Sampler

namespace Faker

/-- There is a text of every locale about every topic, from whatever random source. -/
def Library.HasTexts (library : Library) : Prop :=
  ∀ locale topic, IsTotal (library locale topic)

theorem isTotal_digitFrom {low : Int} (h : low ≤ 9) : IsTotal (digitFrom low) :=
  (isTotal_between _ h).bind fun _ => faultsOnly_pure _

theorem isTotal_fillMark (c : Char) : IsTotal (fillMark c) := by
  unfold fillMark
  split
  · exact isTotal_digitFrom (by decide)
  · exact isTotal_digitFrom (by decide)
  · exact faultsOnly_pure c

theorem isTotal_formatted {formats : List String} (h : formats ≠ []) :
    IsTotal (formatted formats) :=
  (isTotal_choose h).bind fun _ =>
    (faultsOnly_mapM fun c _ => isTotal_fillMark c).bind fun _ => faultsOnly_pure _

theorem isTotal_pickWord : IsTotal (pick words) :=
  isTotal_choose (List.cons_ne_nil _ _)

theorem isTotal_madeUpName : IsTotal madeUpName :=
  isTotal_pickWord.bind fun _ => faultsOnly_pure _

theorem isTotal_twoNames : IsTotal twoNames :=
  isTotal_madeUpName.bind fun _ => isTotal_madeUpName.bind fun _ => faultsOnly_pure _

theorem hasTexts_text : Library.HasTexts text := by
  intro locale topic
  cases topic with
  | email => exact isTotal_pickWord.bind fun _ => faultsOnly_pure _
  | firstName | lastName | city | company => exact isTotal_madeUpName
  | fullName | street => exact isTotal_twoNames
  | username | word => exact isTotal_pickWord
  | phone => cases locale <;> exact isTotal_formatted (List.cons_ne_nil _ _)
  | country => exact isTotal_choose (List.cons_ne_nil _ _)
  | postalCode => exact isTotal_formatted (List.cons_ne_nil _ _)
  | jobTitle =>
    refine (isTotal_choose (List.cons_ne_nil _ _)).bind fun _ => ?_
    refine (isTotal_choose (List.cons_ne_nil _ _)).bind fun _ => ?_
    exact (isTotal_choose (List.cons_ne_nil _ _)).bind fun _ => faultsOnly_pure _

end Faker

namespace Generation

variable {α : Type} {p : Primitive} {b : Bounds Float} {field : String} {n : Int} {base : Date}
  {f : Fault} {q : Fault → Prop}

theorem isTotal_patternText (s : Regex.Sampler) : IsTotal (patternText s) :=
  (Regex.Sampler.isTotal_draw s).bind fun _ => faultsOnly_pure _

theorem faultsOnly_times {draw : Draw α} (h : FaultsOnly draw q) (count : Nat) :
    FaultsOnly (times count draw) q :=
  faultsOnly_mapM fun _ _ => h

namespace LengthRange

variable {default : LengthRange}

theorem isTotal_draw (r : LengthRange) : IsTotal r.draw := by
  unfold LengthRange.draw
  split
  · exact faultsOnly_pure _
  · exact (isTotal_between _ (by omega)).bind fun _ => faultsOnly_pure _

theorem gives_draw {r : LengthRange} (h : r.least ≤ r.most) :
    Gives r.draw fun n => r.least ≤ n ∧ n ≤ r.most := by
  unfold draw
  split
  · exact gives_pure ⟨Nat.le_refl _, h⟩
  · refine (gives_between _ (by omega)).bind fun n hn => gives_pure ?_
    omega

theorem least_le_most_within (default : LengthRange) (b : Bounds Nat) :
    (default.within b).least ≤ (default.within b).most := by
  obtain ⟨min, max⟩ := b
  unfold within
  cases min with
  | none => exact Nat.min_le_right _ _
  | some least => exact Nat.le_max_right _ _

theorem min_le_least_within (default : LengthRange) (b : Bounds Nat) :
    b.min.getD 0 ≤ (default.within b).least := by
  obtain ⟨min, max⟩ := b
  cases min with
  | none => exact Nat.zero_le _
  | some least => exact Nat.le_refl _

theorem most_within_le (h : default.least ≤ default.most) (b : Bounds Nat) :
    (default.within b).most ≤ max (b.min.getD 0) default.most := by
  obtain ⟨min, max⟩ := b
  unfold within
  cases min <;> cases max <;>
    simp only [Option.getD_none, Option.getD_some, Option.map_none, Option.map_some] <;> omega

theorem faultsOnly_within {draw : Nat → Draw α} (h : default.least ≤ default.most) (b : Bounds Nat)
    (hdraw : ∀ n ≤ max (b.min.getD 0) default.most, FaultsOnly (draw n) q) :
    FaultsOnly ((default.within b).draw >>= draw) q :=
  (isTotal_draw _).faultsOnly.bind_gives (gives_draw (least_le_most_within default b))
    fun n hn => hdraw n (Nat.le_trans hn.2 (most_within_le h b))

end LengthRange

theorem isTotal_randomInt (b : Bounds Float) : IsTotal (randomInt b) := by
  unfold randomInt
  split
  split
  · exact faultsOnly_pure _
  · exact isTotal_between _ (by omega)

theorem isTotal_randomDate (b : Bounds Timestamp) (base : Date) : IsTotal (randomDate b base) := by
  unfold randomDate
  split
  simp only
  split
  · exact faultsOnly_pure _
  · exact (isTotal_between _ (by omega)).bind fun _ => faultsOnly_pure _

theorem isTotal_randomTimestamp (b : Bounds Timestamp) (base : Date) :
    IsTotal (randomTimestamp b base) := by
  unfold randomTimestamp
  split
  simp only
  split
  · exact faultsOnly_pure _
  · exact (isTotal_between _ (by omega)).bind fun _ => faultsOnly_pure _

def itemBytes : Terminal → Nat
  | .array .. => Batch.slotBytes
  | .primitive .string | .primitive .binary => 1
  | .primitive _ => 0

def Unaddressable (t : Terminal) (least : Nat) (f : Fault) : Prop :=
  f = .listTooLong ∧ byteLimit ≤ least * itemBytes t

theorem Unaddressable.of_le_max {t : Terminal} {n least most : Nat} (h : Unaddressable t n f)
    (hn : n ≤ max least most) (hmost : most * itemBytes t < byteLimit) :
    Unaddressable t least f := by
  refine ⟨h.1, ?_⟩
  rcases Nat.le_total least most with hle | hle
  · rw [Nat.max_eq_right hle] at hn
    exact absurd (Nat.le_trans h.2 (Nat.mul_le_mul_right _ hn)) (Nat.not_le.mpr hmost)
  · rw [Nat.max_eq_left hle] at hn
    exact Nat.le_trans h.2 (Nat.mul_le_mul_right _ hn)

theorem unaddressable_iff_of_bytes {t : Terminal} {n : Nat} (ht : itemBytes t = 1) :
    Unaddressable t n f ↔ f = .listTooLong ∧ byteLimit ≤ n := by
  rw [Unaddressable, ht, Nat.mul_one]

theorem not_unaddressable_zero {t : Terminal} : ¬ Unaddressable t 0 f := by
  rintro ⟨-, h⟩
  rw [Nat.zero_mul] at h
  exact absurd h (by decide)

end Generation

namespace Domain

open Generation

def leastLength (d : Domain) : Nat :=
  d.terminal.fixedLength?.getD (d.length.min.getD 0)

/-- No list can have the least length that the domain admits. -/
def TooLong (d : Domain) : Prop :=
  byteLimit ≤ d.leastLength * itemBytes d.terminal

instance (d : Domain) : Decidable d.TooLong :=
  inferInstanceAs (Decidable (_ ≤ _))

end Domain

namespace Generation

section Lists

variable {n : Nat} {f : Fault}

theorem faultsOnly_alphanumeric (n : Nat) :
    FaultsOnly (alphanumeric n) (Unaddressable (.primitive .string) n) :=
  (faultsOnly_reserve n 1).bind fun _ =>
    (faultsOnly_times (isTotal_choose (by decide)).faultsOnly n).bind fun _ => faultsOnly_pure _

theorem faultsOnly_bytes (n : Nat) :
    FaultsOnly (bytes n) (Unaddressable (.primitive .binary) n) :=
  (faultsOnly_reserve n 1).bind fun _ => (isTotal_fill n).faultsOnly

theorem alwaysFails_alphanumeric (h : byteLimit ≤ n * itemBytes (.primitive .string)) :
    AlwaysFails (alphanumeric n) .listTooLong :=
  (alwaysFails_reserve h).bind

theorem alwaysFails_bytes (h : byteLimit ≤ n * itemBytes (.primitive .binary)) :
    AlwaysFails (bytes n) .listTooLong :=
  (alwaysFails_reserve h).bind

theorem alphanumeric_eq_error {s : Source} :
    alphanumeric n s = .error f ↔ f = .listTooLong ∧ byteLimit ≤ n :=
  ((faultsOnly_alphanumeric n).eq_error_iff alwaysFails_alphanumeric).trans
    (unaddressable_iff_of_bytes rfl)

theorem bytes_eq_error {s : Source} : bytes n s = .error f ↔ f = .listTooLong ∧ byteLimit ≤ n :=
  ((faultsOnly_bytes n).eq_error_iff alwaysFails_bytes).trans (unaddressable_iff_of_bytes rfl)

theorem isTotal_label : IsTotal (alphanumeric 8) :=
  (faultsOnly_alphanumeric 8).mono fun _ h => absurd h.2 (by decide)

theorem isTotal_randomUuid : IsTotal randomUuid :=
  (isTotal_fill 16).bind fun _ => faultsOnly_pure _

end Lists

section Scalars

variable {α : Type} {p : Primitive} {b : Bounds Float} {field : String} {n : Int} {base : Date}
  {f : Fault} {q : Fault → Prop}

theorem isTotal_evenChance : IsTotal (chance 0.5) :=
  isTotal_chance (by decide +kernel) (by decide +kernel)

theorem isTotal_randomJson : IsTotal randomJson :=
  (isTotal_between _ (by decide)).bind fun _ => isTotal_label.bind fun _ =>
    isTotal_evenChance.bind fun _ => faultsOnly_pure _

def TooWide (b : Bounds Float) : Prop :=
  ¬ (decimalRange b).2 ≤ (decimalRange b).1 ∧
    ((decimalRange b).2 - (decimalRange b).1).isFinite = false

theorem faultsOnly_randomDecimal (b : Bounds Float) :
    FaultsOnly (randomDecimal b) fun f => f = .widthNotFinite ∧ TooWide b := by
  unfold TooWide randomDecimal
  generalize decimalRange b = range
  obtain ⟨low, high⟩ := range
  simp only
  split
  · exact faultsOnly_pure low
  · next hle =>
    refine FaultsOnly.bind ?_ fun _ => faultsOnly_pure _
    exact (faultsOnly_floatBetween low high).mono fun f hf => ⟨hf.1, hle, hf.2⟩

theorem alwaysFails_randomDecimal (h : TooWide b) :
    AlwaysFails (randomDecimal b) .widthNotFinite := by
  unfold TooWide at h
  unfold randomDecimal
  generalize decimalRange b = range at h ⊢
  obtain ⟨low, high⟩ := range
  simp only [if_neg h.1]
  exact (alwaysFails_floatBetween h.2).bind

theorem randomDecimal_eq_error {s : Source} :
    randomDecimal b s = .error f ↔ f = .widthNotFinite ∧ TooWide b :=
  (faultsOnly_randomDecimal b).eq_error_iff alwaysFails_randomDecimal

theorem faultsOnly_randomScalar (p : Primitive) (d : Domain) (length : Bounds Nat) (base : Date) :
    FaultsOnly (randomScalar p d length base) fun f =>
      (p = .decimal ∧ f = .widthNotFinite ∧ TooWide d.numeric) ∨
        Unaddressable (.primitive p) (length.min.getD 0) f := by
  cases p with
  | integer => exact (isTotal_randomInt _).faultsOnly.bind fun _ => faultsOnly_pure _
  | decimal =>
    refine FaultsOnly.bind ?_ fun _ => faultsOnly_pure _
    exact (faultsOnly_randomDecimal _).mono fun f h => .inl ⟨rfl, h⟩
  | string =>
    refine LengthRange.faultsOnly_within (by decide) length fun n hn => ?_
    refine FaultsOnly.bind ?_ fun _ => faultsOnly_pure _
    exact (faultsOnly_alphanumeric n).mono fun f h => .inr (h.of_le_max hn (by decide))
  | boolean => exact isTotal_evenChance.faultsOnly.bind fun _ => faultsOnly_pure _
  | date => exact (isTotal_randomDate _ _).faultsOnly.bind fun _ => faultsOnly_pure _
  | timestamp => exact (isTotal_randomTimestamp _ _).faultsOnly.bind fun _ => faultsOnly_pure _
  | uuid => exact isTotal_randomUuid.faultsOnly.bind fun _ => faultsOnly_pure _
  | binary =>
    refine LengthRange.faultsOnly_within (by decide) length fun n hn => ?_
    refine FaultsOnly.bind ?_ fun _ => faultsOnly_pure _
    exact (faultsOnly_bytes n).mono fun f h => .inr (h.of_le_max hn (by decide))
  | json => exact isTotal_randomJson.faultsOnly.bind fun _ => faultsOnly_pure _

def IsSpan (seconds : Int) : Prop :=
  -Timestamp.maxSpan ≤ seconds ∧ seconds ≤ Timestamp.maxSpan

instance (seconds : Int) : Decidable (IsSpan seconds) :=
  inferInstanceAs (Decidable (_ ∧ _))

/-- How far a date or an instant in a sequence is from the base, in seconds. -/
def sequenceSpan? (p : Primitive) (n : Int) : Option Int :=
  match p with
  | .date => some (secondsOfDays n)
  | .timestamp => some (n * 3600)
  | _ => none

def TooFar (p : Primitive) (n : Int) : Prop :=
  ∃ seconds, sequenceSpan? p n = some seconds ∧ ¬ IsSpan seconds

theorem span_eq_error {seconds : Int} :
    span seconds = .error f ↔ f = .spanTooLong ∧ ¬ IsSpan seconds := by
  unfold span IsSpan
  split <;> simp_all [eq_comm]

theorem span_of_isSpan {seconds : Int} (h : IsSpan seconds) : span seconds = .ok seconds :=
  if_pos h

theorem sequentialValue_eq_error :
    sequentialValue p b field n base = .error f ↔ f = .spanTooLong ∧ TooFar p n := by
  cases p with
  | date | timestamp =>
    simp [sequentialValue, bind_eq_error, span_eq_error, TooFar, sequenceSpan?, pure,
      Except.pure]
  | integer | decimal | string | boolean | uuid | binary | json =>
    simp [sequentialValue, TooFar, sequenceSpan?]

theorem day_of_addDays? {d : Date} (h : base.addDays? n = some d) : d.day = base.day + n := by
  unfold Date.addDays? Date.ofDay? at h
  split at h
  · cases h
    rfl
  · cases h

theorem day_bounds (d : Date) : -96465292 ≤ d.day ∧ d.day ≤ 95026236 :=
  ⟨d.first_le, d.le_last⟩

theorem isSpan_of_addDays? {d : Date} (h : base.addDays? n = some d) :
    IsSpan (secondsOfDays n) := by
  have hday := day_of_addDays? h
  have hbase := day_bounds base
  have hd := day_bounds d
  simp only [IsSpan, Timestamp.maxSpan, secondsOfDays]
  omega

theorem isSpan_of_addSeconds? {t next : Timestamp} {seconds : Int}
    (h : t.addSeconds? seconds = some next) :
    IsSpan seconds := by
  have hsecond := t.second_lt
  unfold Timestamp.addSeconds? at h
  split at h
  · next hzero =>
    subst hzero
    exact ⟨by decide, by decide⟩
  · obtain ⟨d, hadd, -⟩ := Option.map_eq_some_iff.mp h
    have hday := day_of_addDays? hadd
    have hbase := day_bounds t.date
    have hd := day_bounds d
    simp only [IsSpan, Timestamp.maxSpan]
    split at hday <;> omega

/-- A date in a sequence is so many days from the base, or the base if there is no such date. -/
theorem sequentialValue_date : sequentialValue .date b field n base =
    match base.addDays? n with
    | some d => .ok (.date d)
    | none => if IsSpan (secondsOfDays n) then .ok (.date base) else .error .spanTooLong := by
  cases h : base.addDays? n with
  | some d =>
    simp only [sequentialValue, shiftDate, h, span_of_isSpan (isSpan_of_addDays? h)]
    rfl
  | none =>
    by_cases hspan : IsSpan (secondsOfDays n)
    · simp only [sequentialValue, shiftDate, h, span_of_isSpan hspan, if_pos hspan]
      rfl
    · simp only [sequentialValue, span_eq_error.mpr ⟨rfl, hspan⟩, if_neg hspan]
      rfl

/-- An instant in a sequence is so many hours from midnight, or midnight if there is no such
instant. -/
theorem sequentialValue_timestamp : sequentialValue .timestamp b field n base =
    match (Timestamp.midnight base).addSeconds? (n * 3600) with
    | some t => .ok (.timestamp t)
    | none => if IsSpan (n * 3600) then .ok (.timestamp (.midnight base))
        else .error .spanTooLong := by
  cases h : (Timestamp.midnight base).addSeconds? (n * 3600) with
  | some t =>
    simp only [sequentialValue, shiftTimestamp, span_of_isSpan (isSpan_of_addSeconds? h), Bind.bind,
      Except.bind, h]
    rfl
  | none =>
    by_cases hspan : IsSpan (n * 3600)
    · simp only [sequentialValue, shiftTimestamp, span_of_isSpan hspan, if_pos hspan, Bind.bind,
        Except.bind, h]
      rfl
    · simp only [sequentialValue, span_eq_error.mpr ⟨rfl, hspan⟩, if_neg hspan]
      rfl

end Scalars

end Generation

end Fixtures
