import Mathlib.Order.Bounds.Basic
import Fixtures.Proofs.Generation.BatchEvents

namespace Fixtures.Generation.Batch

variable {fs gs : List Model.Field} {t u : Model.Table}

def exactFieldBytes (f : Model.Field) : Nat :=
  let length := f.domain.length
  match f.terminal with
  | .primitive p => slotBytes + payloadBytes p length
  | .array item fixed =>
    slotBytes + fixed.getD
      (LengthRange.array.within length).most * (slotBytes + payloadBytes item .unbounded)

def exactRecordBytes (t : Model.Table) : Nat :=
  total (t.fields.map exactFieldBytes)

theorem limited_add_limited (m n : Nat) : limited (m + limited n) = limited (m + n) := by
  unfold limited
  omega

theorem limited_mul_limited (m n : Nat) : limited (m * limited n) = limited (m * n) := by
  unfold limited
  rcases Nat.le_total n maxBytes with hle | hge
  · rw [Nat.min_eq_left hle]
  · cases m with
    | zero => rw [Nat.zero_mul, Nat.zero_mul]
    | succ m =>
      have hlimited : maxBytes ≤ (m + 1) * maxBytes := Nat.le_mul_of_pos_left _ m.succ_pos
      have hexact : maxBytes ≤ (m + 1) * n := Nat.le_trans hlimited (Nat.mul_le_mul_left _ hge)
      rw [Nat.min_eq_right hge, Nat.min_eq_right hlimited, Nat.min_eq_right hexact]

/-- The estimate of a field is exact, or the greatest number if it would be beyond that. -/
theorem fieldBytes_eq (f : Model.Field) : fieldBytes f = limited (exactFieldBytes f) := by
  unfold fieldBytes exactFieldBytes
  cases f.terminal with
  | primitive p => rfl
  | array item fixed =>
    dsimp only
    rw [limited_add_limited, ← limited_add_limited, limited_mul_limited, limited_add_limited]

theorem foldl_fieldBytes (fs : List Model.Field) (n : Nat) :
    fs.foldl (fun total f => limited (total + fieldBytes f)) (limited n) =
      limited (n + total (fs.map exactFieldBytes)) := by
  induction fs generalizing n with
  | nil => rfl
  | cons f fs ih =>
    have hstep : limited (limited n + fieldBytes f) = limited (n + exactFieldBytes f) := by
      rw [fieldBytes_eq, limited_add_limited, Nat.add_comm, limited_add_limited, Nat.add_comm]
    rw [List.foldl_cons, hstep, ih, Nat.add_assoc]
    rfl

theorem recordBytes_eq (t : Model.Table) : recordBytes t = limited (exactRecordBytes t) := by
  have h := foldl_fieldBytes t.fields 0
  rwa [Nat.zero_add] at h

theorem total_le_of_sublist (h : fs.Sublist gs) :
    total (fs.map exactFieldBytes) ≤ total (gs.map exactFieldBytes) := by
  induction h with
  | slnil => exact Nat.le_refl _
  | cons f _ ih => exact Nat.le_trans ih (Nat.le_add_left _ (exactFieldBytes f))
  | cons_cons f _ ih => exact Nat.add_le_add_left ih (exactFieldBytes f)

theorem recordBytes_mono (h : t.fields.Sublist u.fields) : recordBytes t ≤ recordBytes u := by
  have hle : exactRecordBytes t ≤ exactRecordBytes u := total_le_of_sublist h
  rw [recordBytes_eq, recordBytes_eq]
  unfold limited
  omega

/-- Sizes of batches that are allowed: a single row always is, and more rows are if they fit under
the ceiling. -/
def allowedSizes (t : Model.Table) (ceiling most : Nat) : Set Nat :=
  {b | 1 ≤ b ∧ b ≤ most ∧ (b = 1 ∨ b * max (recordBytes t) 1 ≤ ceiling)}

theorem isGreatest_size (t : Model.Table) (ceiling : Nat) (hmost : 1 ≤ most) :
    IsGreatest (allowedSizes t ceiling most) (size t ceiling most) := by
  have hpos : 0 < max (recordBytes t) 1 := Nat.lt_of_lt_of_le Nat.zero_lt_one (Nat.le_max_right _ _)
  have hfit : ∀ b, b ≤ ceiling / max (recordBytes t) 1 ↔ b * max (recordBytes t) 1 ≤ ceiling :=
    fun b => Nat.le_div_iff_mul_le hpos
  unfold size
  constructor
  · refine ⟨Nat.le_max_left _ _, by omega, ?_⟩
    rcases Nat.lt_or_ge 1 (min (ceiling / max (recordBytes t) 1) (max most 1)) with hmore | hone
    · rw [Nat.max_eq_right (Nat.le_of_lt hmore)]
      exact .inr ((hfit _).mp (Nat.min_le_left _ _))
    · exact .inl (Nat.max_eq_left hone)
  · rintro b ⟨-, hle, rfl | hrows⟩
    · exact Nat.le_max_left _ _
    · have := (hfit b).mpr hrows
      omega

theorem size_anti (h : t.fields.Sublist u.fields) (ceiling most : Nat) :
    size u ceiling most ≤ size t ceiling most := by
  have hle := recordBytes_mono h
  have hfewer : ceiling / max (recordBytes u) 1 ≤ ceiling / max (recordBytes t) 1 :=
    Nat.div_le_div_left (by omega) (by omega)
  unfold size
  omega

def spansFrom (size count start : Nat) : List Span :=
  if start < count then
    let span := spanFrom size count start
    span :: spansFrom size count span.stop
  else []
termination_by count - start
decreasing_by
  simp only [spanFrom, Span.stop]
  omega

section Spans

variable {size count start : Nat} {spans : List Span}

theorem spansFrom_of_lt (h : start < count) :
    spansFrom size count start =
      spanFrom size count start :: spansFrom size count (spanFrom size count start).stop := by
  rw [spansFrom, if_pos h]

theorem spansFrom_of_le (h : count ≤ start) : spansFrom size count start = [] := by
  rw [spansFrom, if_neg (Nat.not_lt.mpr h)]

/-- The rows from one on in spans of `size` rows. Only the last span may be shorter, and none is
empty. The row after a span is found with numbers that end at the greatest one. -/
structure Covers (size count start : Nat) (spans : List Span) : Prop where
  rows : spans.flatMap Span.rows = List.range' start (count - start)
  bounds : ∀ s ∈ spans, 0 < s.length ∧ s.length ≤ size
  full : ∀ s ∈ spans.dropLast, s.length = size
  stops : ∀ s ∈ spans, s.stop = min (limited (s.first + size)) count

theorem covers_nil (h : count ≤ start) : Covers size count start [] := by
  refine ⟨?_, by simp, by simp, by simp⟩
  rw [Nat.sub_eq_zero_of_le h]
  rfl

theorem Covers.cons (hsize : 1 ≤ size) (hcount : count ≤ maxBytes) (hlt : start < count)
    (h : Covers size count (start + min size (count - start)) spans) :
    Covers size count start (⟨start, min size (count - start)⟩ :: spans) := by
  have hbounds : 0 < min size (count - start) ∧ min size (count - start) ≤ size := by omega
  have hstop : start + min size (count - start) = min (limited (start + size)) count := by
    unfold limited
    omega
  refine ⟨?_, List.forall_mem_cons.mpr ⟨hbounds, h.bounds⟩, ?_,
    List.forall_mem_cons.mpr ⟨hstop, h.stops⟩⟩
  · have hall : min size (count - start) + (count - (start + min size (count - start))) =
        count - start := by
      omega
    rw [List.flatMap_cons, h.rows, Span.rows, List.range'_append_1, hall]
  · cases spans with
    | nil => simp
    | cons next spans =>
      have hnext : 0 < next.length := (h.bounds next List.mem_cons_self).1
      have hlength := congrArg List.length h.rows
      rw [List.flatMap_cons, List.length_append, Span.rows, List.length_range', List.length_range']
        at hlength
      have hfull : min size (count - start) = size := by omega
      rw [List.dropLast_cons_cons]
      exact List.forall_mem_cons.mpr ⟨hfull, h.full⟩

theorem covers_spansFrom (hsize : 1 ≤ size) (hcount : count ≤ maxBytes) (start : Nat) :
    Covers size count start (spansFrom size count start) := by
  have hspan : ∀ start, spanFrom size count start = ⟨start, min size (count - start)⟩ := by
    intro start
    rw [spanFrom, Nat.max_eq_left hsize]
  -- Every span has a row, so fewer rows are left after it.
  induction hn : count - start using Nat.strongRecOn generalizing start with
  | ind n ih =>
    subst hn
    rcases Nat.lt_or_ge start count with hlt | hge
    · rw [spansFrom_of_lt hlt, hspan]
      have hfewer : count - (start + min size (count - start)) < count - start := by omega
      exact (ih _ hfewer _ rfl).cons hsize hcount hlt
    · rw [spansFrom_of_le hge]
      exact covers_nil hge

end Spans

end Fixtures.Generation.Batch

namespace Fixtures.Generation

def Event.rowNumbers (e : Event) : List Nat :=
  e.records.map Record.position

namespace TableJob

variable {job : TableJob} {start : Nat} {taken next : KeyTracker} {rows : List SampledRow}

/-- Events are the batches of the first spans of rows, and those of all spans unless there is an
error. -/
structure Visits (job : TableJob) (spans : List Batch.Span) (result : Emitted (List SampledRow)) :
    Prop where
  batches : ∀ e ∈ result.1, e.IsBatchOf job.plan.name
  firsts : result.1.map Event.rowNumbers <+: spans.map Batch.Span.rows
  all : result.2.isOk → result.1.map Event.rowNumbers = spans.map Batch.Span.rows

theorem Visits.cons {spans : List Batch.Span} {result : Emitted (List SampledRow)}
    {span : Batch.Span} {records : List Record} (h : job.Visits spans result)
    (hrecords : records.map Record.position = span.rows) (rows : List SampledRow) :
    job.Visits (span :: spans) (.batch job.plan.name records :: result.1,
        result.2.map (rows ++ ·)) := by
  refine ⟨List.forall_mem_cons.mpr ⟨⟨records, rfl⟩, h.batches⟩, ?_, fun hok => ?_⟩
  · exact List.cons_prefix_cons.mpr ⟨hrecords, h.firsts⟩
  · obtain ⟨events, outcome⟩ := result
    cases outcome with
    | error e => cases hok
    | ok more => exact List.cons_eq_cons.mpr ⟨hrecords, h.all rfl⟩

theorem rowNumbers_of_generateBatch
    (h : job.generateBatch taken (job.batchFrom start).rows = .ok (rows, next)) :
    (job.recordsFrom start rows).map Record.position = (job.batchFrom start).rows := by
  rw [positions_recordsFrom, length_recordsFrom_of_generateBatch h, rows_batchFrom]

theorem visits_generateFrom (job : TableJob) (start : Nat) (taken : KeyTracker) :
    job.Visits (Batch.spansFrom job.batchSize job.plan.count start)
      (job.generateFrom start taken) := by
  -- The loop and the spans are cut alike, and every batch leaves fewer rows.
  induction hn : job.plan.count - start using Nat.strongRecOn generalizing start taken with
  | ind n ih =>
    subst hn
    rcases Nat.lt_or_ge start job.plan.count with hlt | hge
    · rw [generateFrom_of_lt hlt, Batch.spansFrom_of_lt hlt]
      have hpos := job.batchFrom_length_pos hlt
      cases hbatch : job.generateBatch taken (job.batchFrom start).rows with
      | error e => exact ⟨by simp, List.nil_prefix, fun hok => by cases hok⟩
      | ok result =>
        obtain ⟨rows, next⟩ := result
        have hfewer : job.plan.count - (job.batchFrom start).stop < job.plan.count - start := by
          rw [stop_batchFrom]
          omega
        exact (ih _ hfewer _ next rfl).cons (rowNumbers_of_generateBatch hbatch) rows
    · rw [generateFrom_of_le hge, Batch.spansFrom_of_le hge]
      exact ⟨by simp, List.nil_prefix, fun _ => rfl⟩

end TableJob

namespace Batch

/-- Estimates are exact up to the greatest number and stay at it beyond. A batch has as many rows as
are allowed, and no more of them once a table has further fields. The batches cover the rows of a
table of any size, and the loop over batches goes through them one after the other. -/
theorem batches_fit_and_cover (t : Model.Table) (ceiling : Nat) {most : Nat} (hmost : 1 ≤ most) :
    (∀ f : Model.Field, fieldBytes f = limited (exactFieldBytes f)) ∧
      recordBytes t = limited (exactRecordBytes t) ∧
      IsGreatest (allowedSizes t ceiling most) (size t ceiling most) ∧
      (∀ u : Model.Table, t.fields.Sublist u.fields → size u ceiling most ≤ size t ceiling most) ∧
      (∀ b count, 1 ≤ b → count ≤ maxBytes → Covers b count 0 (spansFrom b count 0)) ∧
      ∀ (job : TableJob) (taken : KeyTracker),
        job.Visits
          (spansFrom (size job.table job.options.batchMemoryCeiling job.options.maxBatchSize)
              job.plan.count 0)
          (job.generateFrom 0 taken) :=
  ⟨fieldBytes_eq, recordBytes_eq t, isGreatest_size t ceiling hmost, fun _ h =>
    size_anti h ceiling most, fun _ _ hb hcount => covers_spansFrom hb hcount 0, fun job taken =>
    job.visits_generateFrom 0 taken⟩

def wideFields : List Model.Field :=
  [⟨"notes", .primitive .string, none, [],
      { terminal := .primitive .string, length := ⟨some 1, some maxBytes⟩ }, false, none, none⟩,
    ⟨"tags", .array .string none, none, [], { terminal := .array .string none }, false, none, none⟩]

def longField : Model.Field :=
  ⟨"pages", .array .string none, none, [],
    { terminal := .array .string none, length := ⟨some maxBytes, some maxBytes⟩ }, false, none,
    none⟩

def wideTable : Model.Table :=
  ⟨"entry", wideFields, none, [], [], [], {}, none⟩

def longTable : Model.Table :=
  { wideTable with fields := longField :: wideFields }

theorem batches_fit_and_cover_long :
    recordBytes wideTable = 344 ∧ size wideTable 3440 1000 = 10 ∧
      exactRecordBytes longTable > maxBytes ∧
      recordBytes longTable = maxBytes ∧ size longTable 3440 1000 = 1 ∧
      IsGreatest (allowedSizes wideTable 3440 1000) (size wideTable 3440 1000) ∧
      size longTable 3440 1000 ≤ size wideTable 3440 1000 ∧
      Covers 10 maxBytes 0 (spansFrom 10 maxBytes 0) := by
  obtain ⟨-, -, hgreatest, hanti, hcovers, -⟩ :=
    batches_fit_and_cover wideTable 3440 (show 1 ≤ 1000 by decide)
  have hfields : wideTable.fields.Sublist longTable.fields :=
    List.sublist_cons_self longField wideFields
  exact ⟨by decide, by decide, by decide, by decide, by decide, hgreatest, hanti longTable hfields,
    hcovers 10 maxBytes (by decide) (Nat.le_refl _)⟩

end Batch

end Fixtures.Generation
