import Fixtures.Proofs.Calendar.Days
import Fixtures.Proofs.Domain.Acceptance
import Fixtures.Proofs.Domain.MergedBounds

namespace Fixtures

namespace Constraint

def IsBound (c : Constraint) : Prop :=
  (∃ low high, c = range low high) ∨ ∃ low high, c = length low high

end Constraint

namespace Domain

open Timestamp

variable {t : Terminal} {c : Constraint} {cs : List Constraint} {d : Domain} {draft added : Draft}
  {parts : List Draft} {v : Value} {n : Nat} {instant : Timestamp} {day : Date}
  {b : Bounds Timestamp}

theorem forall_elementChecks_iff (hadds : Adds t c added) (hc : c.isOnValue = true → c.IsBound)
    (ht : t.element.isTemporal = true) (hv : v.timestamp? = some instant) :
    (∀ check ∈ added.domain.elementChecks, check.admits v = true) ↔
      added.domain.temporal.contains instant = true := by
  cases hadds with
  | nothing | length => simp [unconstrained, Bounds.contains_unbounded]
  | numeric hnumeric =>
    cases hp : t.element <;>
      simp [hp, Primitive.isNumeric, Primitive.isTemporal] at hnumeric ht
  | temporal => simp [ValueCheck.admits, hv]
  | pattern | enum => simp [Constraint.isOnValue, Constraint.IsBound] at hc

theorem forall_lengthChecks_iff (hadds : Adds t c added) (hv : v.length? = some n) :
    (∀ check ∈ added.domain.lengthChecks, check.admits v = true) ↔
      added.domain.length.contains n = true := by
  cases hadds with
  | length => simp [ValueCheck.admits, hv]
  | _ => simp [unconstrained, Bounds.contains_unbounded]

theorem all_min_temporal (hadds : Adds t c added)
    (hdates : ∀ check ∈ added.domain.elementChecks, ∃ day, check.admits (.date day) = true) :
    added.domain.temporal.min.all (fun low => low ≤ midnight .last) = true := by
  cases hadds with
  | temporal =>
    obtain ⟨day, hday⟩ := hdates _ List.mem_cons_self
    simp only [ValueCheck.admits, Value.timestamp?, Option.any_some, Bounds.contains,
      Bool.and_eq_true] at hday
    rw [Option.all_eq_true] at hday ⊢
    intro low hlow
    have hle : low ≤ midnight day := of_decide_eq_true (hday.1 low hlow)
    exact decide_eq_true (Std.le_trans hle (midnight_le_midnight.mpr day.le_last))
  | _ => rfl

theorem day_addDays?_one (d : Date) :
    ((d.addDays? 1).getD .last).day = min (d.day + 1) Date.lastDay := by
  have hle := d.le_last
  have hfirst := d.first_le
  unfold Date.addDays? Date.ofDay?
  split
  · next h => exact (Int.min_eq_left h.2).symm
  · next h =>
    show Date.lastDay = _
    omega

/-- The first midnight from an instant on, if there is one, is no later than the midnights that the
instant is no later than. -/
theorem firstMidnight_le_iff {low : Timestamp} (h : day ≠ .last ∨ low ≤ midnight .last) :
    (if low.isMidnight then midnight low.date else midnight ((low.date.addDays? 1).getD .last)) ≤
      midnight day ↔ low ≤ midnight day := by
  by_cases hmidnight : low.rank = 0
  · rw [if_pos (isMidnight_iff.mpr hmidnight), midnight_le_midnight, le_midnight_iff]
    omega
  · rw [if_neg (mt isMidnight_iff.mp hmidnight), midnight_le_midnight, day_addDays?_one,
      le_midnight_iff]
    have hlast : day.day < Date.lastDay ∨ low.date.day < Date.lastDay := by
      refine h.imp Date.day_lt_lastDay fun hle => ?_
      rw [le_midnight_iff] at hle
      exact hle.resolve_right fun heq => hmidnight heq.2
    omega

/-- Moving bounds to midnights does not change which midnights they contain, but for the last one,
if the lower bound comes after it. -/
theorem contains_wholeDays (h : day ≠ .last ∨ ∀ low ∈ b.min, low ≤ midnight .last) :
    (wholeDays b).contains (midnight day) = b.contains (midnight day) := by
  obtain ⟨min, max⟩ := b
  have hmin : (wholeDays ⟨min, max⟩).min.all (fun low => low ≤ midnight day) =
      min.all fun low => low ≤ midnight day := by
    cases min with
    | none => rfl
    | some low =>
      exact decide_eq_decide.mpr (firstMidnight_le_iff (h.imp_right fun hall => hall low rfl))
  have hmax : (wholeDays ⟨min, max⟩).max.all (fun high => midnight day ≤ high) =
      max.all fun high => midnight day ≤ high := by
    cases max with
    | none => rfl
    | some high => exact decide_eq_decide.mpr (midnight_le_midnight.trans midnight_le_iff.symm)
  unfold Bounds.contains
  rw [hmin, hmax]

theorem snap_temporal_of_date (h : d.terminal.element = .date) :
    d.snap.temporal = wholeDays d.temporal := by
  unfold snap
  cases d.terminal.fixedLength? <;> simp only [h]

theorem snap_temporal_of_ne_date (h : d.terminal.element ≠ .date) :
    d.snap.temporal = d.temporal := by
  unfold snap
  cases d.terminal.fixedLength? <;> simp only <;> split <;> first | rfl | contradiction

theorem snap_length (d : Domain) : d.snap.length =
    (d.terminal.fixedLength?.map fun m => d.length.tighten ⟨some m, some m⟩).getD d.length := by
  unfold snap
  cases d.terminal.fixedLength? <;> simp only <;> split <;> rfl

theorem contains_length_snap : d.snap.length.contains n = true ↔
    d.length.contains n = true ∧ ∀ m, d.terminal.fixedLength? = some m → n = m := by
  rw [snap_length]
  cases d.terminal.fixedLength? with
  | none => simp
  | some m =>
    simp only [Option.map_some, Option.getD_some, Bounds.contains_tighten, Bool.and_eq_true,
      Option.some.injEq, forall_eq']
    refine and_congr_right fun _ => ?_
    simp only [Bounds.contains, Option.all_some, Bool.and_eq_true, decide_eq_true_eq]
    omega

theorem foldl_merge_length : (parts.foldl Draft.merge draft).domain.length =
    (parts.map (·.domain.length)).foldl Bounds.tighten draft.domain.length := by
  induction parts generalizing draft with
  | nil => rfl
  | cons part parts ih => exact ih

/-- Bounds in time of all constraints together: what they contain is what the checks admit, and they
are those of the domain but for the move of dates to whole days. -/
theorem exists_merged_of_build (h : build t cs = .ok d)
    (hcs : ∀ c ∈ cs, c.isOnValue = true → c.IsBound)
    (ht : t.element.isTemporal = true) : ∃ b : Bounds Timestamp,
      d.temporal = (if t.element = .date then wholeDays b else b) ∧
      (∀ v instant, v.timestamp? = some instant →
          (d.elementRefusal? v = none ↔ b.contains instant = true)) ∧
      ((∀ check ∈ d.elementChecks, ∃ day, check.admits (.date day) = true) →
        ∀ low ∈ b.min, low ≤ midnight .last) := by
  obtain ⟨parts, hparts, hbuilt⟩ := built_of_build h
  have hmerged : (together t parts).domain.temporal =
      (parts.map (·.domain.temporal)).foldl Bounds.tighten .unbounded := foldl_merge_bounds.2
  have hterminal : (together t parts).domain.terminal = t := foldl_merge_type.1
  have hadds : ∀ added ∈ parts, ∃ c ∈ cs, Adds t c added := fun added hadded =>
    (exists_of_mem_mapM hparts hadded).imp fun c hc => ⟨hc.1, adds_of_part hc.2⟩
  have hadmits : ∀ added ∈ parts, ∀ v instant, v.timestamp? = some instant →
      ((∀ check ∈ added.domain.elementChecks, check.admits v = true) ↔
        added.domain.temporal.contains instant = true) := by
    intro added hadded v instant hv
    obtain ⟨c, hc, hadds⟩ := hadds added hadded
    exact forall_elementChecks_iff hadds (hcs c hc) ht hv
  refine ⟨(together t parts).domain.temporal, ?_, fun v instant hv => ?_, fun hdates => ?_⟩
  · have hsnap : d.temporal = (together t parts).domain.snap.temporal := by cases hbuilt <;> rfl
    rw [hsnap]
    split
    · next hdate => exact snap_temporal_of_date (by rwa [hterminal])
    · next hne => exact snap_temporal_of_ne_date (by rwa [hterminal])
  · rw [hmerged, Bounds.contains_foldl_tighten, List.forall_mem_map, elementRefusal?,
      firstRefusal?_eq_none, hbuilt.checks.1, List.forall_mem_flatMap,
      and_iff_right Bounds.contains_unbounded]
    exact forall₂_congr fun added hadded => hadmits added hadded v instant hv
  · have hall : (together t parts).domain.temporal.min.all (fun low => low ≤ midnight .last) =
        true := by
      rw [hmerged, Bounds.all_min_foldl_tighten, List.forall_mem_map]
      refine ⟨rfl, fun added hadded => ?_⟩
      obtain ⟨c, -, hadds⟩ := hadds added hadded
      refine all_min_temporal hadds fun check hcheck => hdates check ?_
      rw [hbuilt.checks.1]
      exact List.mem_flatMap_of_mem hadded hcheck
    rw [Option.all_eq_true] at hall
    exact fun low hlow => of_decide_eq_true (hall low hlow)

theorem lengthRefusals_eq_none_iff (h : build t cs = .ok d) (hv : v.length? = some n) :
    (d.fixedLengthRefusal? n <|> d.lengthRefusal? v) = none ↔ d.length.contains n = true := by
  obtain ⟨parts, hparts, hbuilt⟩ := built_of_build h
  have hsnap : d.length = (together t parts).domain.snap.length := by cases hbuilt <;> rfl
  have hmerged : (together t parts).domain.length =
      (parts.map (·.domain.length)).foldl Bounds.tighten .unbounded :=
    foldl_merge_length
  have hterminal : (together t parts).domain.terminal = d.terminal :=
    foldl_merge_type.1.trans hbuilt.terminal.symm
  rw [hsnap, contains_length_snap, hmerged, Bounds.contains_foldl_tighten, List.forall_mem_map,
    hterminal, orElse_eq_none, and_comm, lengthRefusal?, firstRefusal?_eq_none, hbuilt.checks.2,
    List.forall_mem_flatMap, and_iff_right Bounds.contains_unbounded]
  refine and_congr (forall₂_congr fun added hadded => ?_) ?_
  · obtain ⟨c, -, hpart⟩ := exists_of_mem_mapM hparts hadded
    exact forall_lengthChecks_iff (adds_of_part hpart) hv
  · unfold fixedLengthRefusal?
    cases d.terminal.fixedLength? with
    | none => simp
    | some m => simp

theorem lengthRefusal?_of_not_hasLength (h : build t cs = .ok d) (ht : hasLength t = false)
    (v : Value) :
    d.lengthRefusal? v = none := by
  refine firstRefusal?_eq_none.mpr fun check hcheck => ?_
  obtain ⟨c, -, added, hpart, hadded⟩ := (mem_checks_of_build h).2.mp hcheck
  cases adds_of_part hpart with
  | length h => cases ht.symm.trans h
  | _ => cases hadded

theorem hasLength_eq_false {p : Primitive} (hv : v.kind? = some p) (hlength : v.length? = none) :
    hasLength (.primitive p) = false := by
  cases v <;> cases hv <;> first | rfl | cases hlength

/-- A value is admitted if it passes the checks and its length is within the bounds. -/
theorem admits_of_primitive {p : Primitive} (h : build (.primitive p) cs = .ok d)
    (hv : v.kind? = some p) (helement : d.elementRefusal? v = none)
    (hlength : ∀ n, v.length? = some n → d.length.contains n = true) :
    d.admits v = true := by
  have hnone : d.lengthRefusal? v = none := by
    cases hn : v.length? with
    | none => exact lengthRefusal?_of_not_hasLength h (hasLength_eq_false hv hn) v
    | some n => exact (orElse_eq_none.mp ((lengthRefusals_eq_none_iff h hn).mpr (hlength n hn))).2
  rw [admits, Option.isNone_iff_eq_none]
  unfold refusal?
  rw [(isOf_of_build h).terminal]
  cases v with
  | null => rfl
  | _ => exact orElse_eq_none.mpr ⟨hnone, helement⟩

theorem admits_of_array {item : Primitive} {fixed : Option Nat} {items : List Value}
    (h : build (.array item fixed) cs = .ok d) (hlength : d.length.contains items.length = true)
    (hitems : ∀ i ∈ items, d.elementRefusal? i = none) : d.admits (.array items) = true := by
  obtain ⟨hfixed, hbounds⟩ :=
    orElse_eq_none.mp ((lengthRefusals_eq_none_iff (v := .array items) h rfl).mpr hlength)
  rw [admits, Option.isNone_iff_eq_none]
  unfold refusal?
  rw [(isOf_of_build h).terminal]
  exact orElse_eq_none.mpr ⟨hfixed,
    orElse_eq_none.mpr ⟨hbounds, List.findSome?_eq_none_iff.mpr hitems⟩⟩

theorem foldl_merge_patterns : (parts.foldl Draft.merge draft).domain.patterns =
    draft.domain.patterns ++ parts.flatMap (·.domain.patterns) := by
  induction parts generalizing draft with
  | nil => simp
  | cons part parts ih => simp [ih, Draft.merge]

theorem snap_patterns (d : Domain) : d.snap.patterns = d.patterns := by
  unfold snap
  cases d.terminal.fixedLength? <;> simp only <;> split <;> rfl

theorem isEmpty_of_build (h : build t cs = .ok d) :
    d.temporal.isEmpty = false ∧ d.length.isEmpty = false := by
  obtain ⟨parts, hparts, hbuilt⟩ := built_of_build h
  have hcontradicts := contradicts_of_build h hparts
  simp only [contradicts, Bool.or_eq_false_iff] at hcontradicts
  cases hbuilt <;> exact ⟨hcontradicts.1.2, hcontradicts.2⟩

theorem unlisted_of_build (h : build t cs = .ok d)
    (hcs : ∀ c ∈ cs, c.isOnValue = true → c.IsBound) :
    d.allowed = none ∧ d.patterns = [] := by
  obtain ⟨parts, hparts, hbuilt⟩ := built_of_build h
  have hadds : ∀ added ∈ parts, added.enums = [] ∧ added.domain.patterns = [] := by
    intro added hadded
    obtain ⟨c, hc, hpart⟩ := exists_of_mem_mapM hparts hadded
    have hbound := hcs c hc
    cases adds_of_part hpart with
    | pattern | enum => simp [Constraint.isOnValue, Constraint.IsBound] at hbound
    | _ => exact ⟨rfl, rfl⟩
  have henums : (together t parts).enums = [] := by
    rw [enums_together, List.flatMap_eq_nil_iff]
    exact fun added hadded => (hadds added hadded).1
  cases hbuilt with
  | free =>
    rw [snap_allowed, snap_patterns, together, foldl_merge_type.2, foldl_merge_patterns]
    exact ⟨rfl, List.flatMap_eq_nil_iff.mpr fun added hadded => (hadds added hadded).2⟩
  | listed hlisted => cases henums.symm.trans hlisted

theorem elementRefusal?_of_bounds (h : build t cs = .ok d)
    (hcs : ∀ c ∈ cs, c.isOnValue = true → c.IsBound)
    (hnumeric : t.element.isNumeric = false) (htemporal : t.element.isTemporal = false)
    (v : Value) :
    d.elementRefusal? v = none := by
  refine firstRefusal?_eq_none.mpr fun check hcheck => ?_
  obtain ⟨c, hc, added, hpart, hadded⟩ := (mem_checks_of_build h).1.mp hcheck
  have hbound := hcs c hc
  cases adds_of_part hpart with
  | numeric h => cases hnumeric.symm.trans h
  | temporal h => cases htemporal.symm.trans h
  | pattern | enum => simp [Constraint.isOnValue, Constraint.IsBound] at hbound
  | nothing | length => cases hadded

/-- Where each range admits a date, dates within the bounds in time pass all checks, the last one
too. -/
theorem elementRefusal?_date (h : build t cs = .ok d)
    (hcs : ∀ c ∈ cs, c.isOnValue = true → c.IsBound) (ht : t.element = .date)
    (hdates : ∀ check ∈ d.elementChecks, ∃ day, check.admits (.date day) = true) :
    d.elementRefusal? (.date day) = none ↔ d.temporal.contains (midnight day) = true := by
  obtain ⟨b, htemporal, hadmits, hlast⟩ := exists_merged_of_build h hcs (by rw [ht]; rfl)
  rw [htemporal, if_pos ht, contains_wholeDays (.inr (hlast hdates))]
  exact hadmits _ _ rfl

theorem exists_days_of_build (h : build t cs = .ok d)
    (hcs : ∀ c ∈ cs, c.isOnValue = true → c.IsBound) (ht : t.element = .date) :
    ∃ first last : Option Date, d.temporal = ⟨first.map midnight, last.map midnight⟩ := by
  obtain ⟨b, htemporal, -⟩ := exists_merged_of_build h hcs (by rw [ht]; rfl)
  rw [htemporal, if_pos ht]
  refine ⟨b.min.map fun low =>
    if low.isMidnight then low.date else (low.date.addDays? 1).getD .last, b.max.map Timestamp.date,
    ?_⟩
  simp only [wholeDays, Option.map_map, Function.comp_def, apply_ite midnight]

theorem contains_length_of_fixed (h : build t cs = .ok d) {m : Nat}
    (hfixed : t.fixedLength? = some m) :
    d.length.contains m = true := by
  obtain ⟨parts, hparts, hbuilt⟩ := built_of_build h
  have hsnap : d.length = (together t parts).domain.snap.length := by cases hbuilt <;> rfl
  have hterminal : (together t parts).domain.terminal = t := foldl_merge_type.1
  obtain ⟨n, hn⟩ := Bounds.exists_contains (isEmpty_of_build h).2
  have hm : n = m := by
    rw [hsnap, contains_length_snap, hterminal] at hn
    exact hn.2 m hfixed
  rwa [← hm]

/-- What the merged bounds of ranges and lengths contain is what passes their checks: instants in
time, dates but for the last one, and lengths, also where the length of an array is fixed. -/
theorem merged_bounds_agree (h : build t cs = .ok d) (hcs : ∀ c ∈ cs, c.IsBound) :
    (t.element = .timestamp → ∀ instant,
      d.elementRefusal? (.timestamp instant) = none ↔ d.temporal.contains instant = true) ∧
    (t.element = .date → ∀ day, day ≠ .last →
      (d.elementRefusal? (.date day) = none ↔ d.temporal.contains (.midnight day) = true)) ∧
    ∀ v n, v.length? = some n →
      ((d.fixedLengthRefusal? n <|> d.lengthRefusal? v) = none ↔ d.length.contains n = true) := by
  have hbounds : ∀ c ∈ cs, c.isOnValue = true → c.IsBound := fun c hc _ => hcs c hc
  refine ⟨fun ht instant => ?_, fun ht day hday => ?_, fun v n hv =>
    lengthRefusals_eq_none_iff h hv⟩
  · obtain ⟨b, htemporal, hadmits, -⟩ := exists_merged_of_build h hbounds (by rw [ht]; rfl)
    rw [htemporal, if_neg (by rw [ht]; decide)]
    exact hadmits _ _ rfl
  · obtain ⟨b, htemporal, hadmits, -⟩ := exists_merged_of_build h hbounds (by rw [ht]; rfl)
    rw [htemporal, if_pos ht, contains_wholeDays (.inl hday)]
    exact hadmits _ _ rfl

def springBounds : List Constraint :=
  [.range (some (.text "2024-02-27T12:00:00")) none, .length (some 1) (some 5),
    .range none (some (.text "2024-03-01 08:30:00"))]

def springEve : Date :=
  ⟨19780, by decide, by decide⟩

theorem merged_bounds_agree_spring : ∃ d, build (.array .date (some 2)) springBounds = .ok d ∧
    (∀ c ∈ springBounds, c.IsBound) ∧ springEve ≠ .last ∧
    d.temporal.contains (.midnight springEve) = false ∧ d.elementRefusal? (.date springEve) ≠ none ∧
    ∀ items : List Value, d.length.contains items.length = true ↔
      (d.fixedLengthRefusal? items.length <|> d.lengthRefusal? (.array items)) = none := by
  have hbuilt : (build (.array .date (some 2)) springBounds).toOption.any
      (fun d => !d.temporal.contains (.midnight springEve)) = true := by decide +kernel
  obtain ⟨d, hd, heve⟩ := (Option.any_eq_true _ _).mp hbuilt
  have hcs : ∀ c ∈ springBounds, c.IsBound := by simp [springBounds, Constraint.IsBound]
  have hlast : springEve ≠ .last := by decide
  obtain ⟨-, hdates, hlengths⟩ := merged_bounds_agree (toOption_eq_some.mp hd) hcs
  have hearly : d.temporal.contains (.midnight springEve) = false := by simpa using heve
  refine ⟨d, toOption_eq_some.mp hd, hcs, hlast, hearly, fun hnone => ?_, fun items =>
    (hlengths _ _ rfl).symm⟩
  rw [hdates rfl springEve hlast, hearly] at hnone
  cases hnone

end Domain

end Fixtures
