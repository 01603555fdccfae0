import Fixtures.Proofs.Calendar.Text
import Fixtures.Proofs.Domain.Ranges

namespace Fixtures

namespace Bounds

variable {α : Type} {p : α → Prop} {b c : Bounds α} {bs : List (Bounds α)}

structure All (p : α → Prop) (b : Bounds α) : Prop where
  min : ∀ a ∈ b.min, p a
  max : ∀ a ∈ b.max, p a

theorem all_unbounded : (unbounded : Bounds α).All p :=
  ⟨nofun, nofun⟩

variable [LT α] [DecidableLT α]

theorem raise_eq_or (current other : Option α) :
    raise current other = current ∨ raise current other = other := by
  unfold raise
  split
  · exact .inl rfl
  · exact .inr rfl
  · split
    · exact .inr rfl
    · exact .inl rfl

theorem lower_eq_or (current other : Option α) :
    lower current other = current ∨ lower current other = other := by
  unfold lower
  split
  · exact .inl rfl
  · exact .inr rfl
  · split
    · exact .inr rfl
    · exact .inl rfl

theorem All.tighten (hb : b.All p) (hc : c.All p) : (b.tighten c).All p := by
  constructor
  · show ∀ a ∈ raise b.min c.min, p a
    rcases raise_eq_or b.min c.min with heq | heq <;> rw [heq]
    · exact hb.min
    · exact hc.min
  · show ∀ a ∈ lower b.max c.max, p a
    rcases lower_eq_or b.max c.max with heq | heq <;> rw [heq]
    · exact hb.max
    · exact hc.max

theorem All.foldl_tighten (hb : b.All p) (hbs : ∀ c ∈ bs, c.All p) :
    (bs.foldl Bounds.tighten b).All p := by
  induction bs generalizing b with
  | nil => exact hb
  | cons c bs ih =>
    obtain ⟨hc, hbs⟩ := List.forall_mem_cons.mp hbs
    exact ih (hb.tighten hc) hbs

section Contents

open Std

variable {a : α} {bs' : List (Bounds α)} {x y : Option α}

omit [LT α] [DecidableLT α] in
theorem contains_unbounded [LE α] [DecidableLE α] : (unbounded : Bounds α).contains a = true :=
  rfl

variable [LE α] [DecidableLE α] [IsLinearOrder α] [LawfulOrderLT α]

theorem all_raise : (raise x y).all (fun low => low ≤ a) =
    (x.all (fun low => low ≤ a) && y.all fun low => low ≤ a) := by
  cases x <;> cases y <;> grind [raise]

theorem all_lower : (lower x y).all (fun high => a ≤ high) =
    (x.all (fun high => a ≤ high) && y.all fun high => a ≤ high) := by
  cases x <;> cases y <;> grind [lower]

theorem contains_tighten : (b.tighten c).contains a = (b.contains a && c.contains a) := by
  unfold contains tighten
  rw [all_raise, all_lower]
  grind

omit [DecidableLE α] in
theorem tighten_right_comm (b c d : Bounds α) :
    (b.tighten c).tighten d = (b.tighten d).tighten c := by
  have hraise : ∀ x y z : Option α, raise (raise x y) z = raise (raise x z) y := by
    intro x y z
    cases x <;> cases y <;> cases z <;> grind [raise]
  have hlower : ∀ x y z : Option α, lower (lower x y) z = lower (lower x z) y := by
    intro x y z
    cases x <;> cases y <;> cases z <;> grind [lower]
  rw [tighten, tighten, tighten, tighten, hraise, hlower]

omit [DecidableLE α] in
theorem foldl_tighten_perm (h : bs.Perm bs') : bs.foldl tighten b = bs'.foldl tighten b :=
  h.foldl_eq' (fun c _ d _ b => tighten_right_comm b c d) b

/-- Bounds that are not empty contain one of their ends, or anything where there are none. -/
theorem exists_contains [Inhabited α] (h : b.isEmpty = false) : ∃ a, b.contains a = true := by
  obtain ⟨min, max⟩ := b
  cases min with
  | none =>
    cases max with
    | none => exact ⟨default, rfl⟩
    | some high => exact ⟨high, by grind [contains]⟩
  | some low =>
    refine ⟨low, ?_⟩
    cases max <;> grind [contains, isEmpty]

theorem contains_foldl_tighten : (bs.foldl tighten b).contains a = true ↔
    b.contains a = true ∧ ∀ c ∈ bs, c.contains a = true := by
  induction bs generalizing b with
  | nil => simp
  | cons c bs ih =>
    rw [List.foldl_cons, ih, contains_tighten, Bool.and_eq_true, List.forall_mem_cons,
      and_assoc]

theorem all_min_foldl_tighten : (bs.foldl tighten b).min.all (fun low => low ≤ a) = true ↔
    b.min.all (fun low => low ≤ a) = true ∧ ∀ c ∈ bs, c.min.all (fun low => low ≤ a) = true := by
  induction bs generalizing b with
  | nil => simp
  | cons c bs ih =>
    rw [List.foldl_cons, ih, tighten, all_raise, Bool.and_eq_true, List.forall_mem_cons,
      and_assoc]

end Contents

end Bounds

namespace Domain

variable {t : Terminal} {c : Constraint} {cs : List Constraint} {d : Domain} {draft : Draft}
  {parts : List Draft}

theorem foldl_merge_bounds : (parts.foldl Draft.merge draft).domain.numeric =
      (parts.map (·.domain.numeric)).foldl Bounds.tighten draft.domain.numeric ∧
    (parts.foldl Draft.merge draft).domain.temporal =
      (parts.map (·.domain.temporal)).foldl Bounds.tighten draft.domain.temporal := by
  induction parts generalizing draft with
  | nil => exact ⟨rfl, rfl⟩
  | cons part parts ih => exact ih

theorem snap_temporal (d : Domain) :
    d.snap.temporal = d.temporal ∨ d.snap.temporal = wholeDays d.temporal := by
  unfold snap
  cases d.terminal.fixedLength? <;> simp only <;> split
  all_goals first | exact .inl rfl | exact .inr rfl

theorem endsMinute_wholeDays (b : Bounds Timestamp) : (wholeDays b).All Calendar.EndsMinute := by
  constructor
  · intro t ht
    obtain ⟨u, -, rfl⟩ := Option.map_eq_some_iff.mp ht
    split <;> exact Calendar.endsMinute_midnight _
  · intro t ht
    obtain ⟨u, -, rfl⟩ := Option.map_eq_some_iff.mp ht
    exact Calendar.endsMinute_midnight _

theorem endsMinute_of_temporalBound {label : String} {l : Option Literal} {bound : Option Timestamp}
    (h : temporalBound label l = .ok bound) : ∀ t ∈ bound, Calendar.EndsMinute t := by
  unfold temporalBound at h
  split at h
  · cases h
    simp
  · cases h
    simp
  · split at h
    · next hread =>
      cases h
      intro t ht
      cases ht
      exact Calendar.endsMinute_of_parseTimestamp? hread
    · cases h
  · cases h

theorem endsMinute_of_part {added : Draft} (h : part t c = .ok added) :
    added.domain.temporal.All Calendar.EndsMinute := by
  cases adds_of_part h with
  | temporal _ hlow hhigh _ =>
    exact ⟨endsMinute_of_temporalBound hlow, endsMinute_of_temporalBound hhigh⟩
  | _ => exact Bounds.all_unbounded

theorem endsMinute_of_build (h : build t cs = .ok d) : d.temporal.All Calendar.EndsMinute := by
  obtain ⟨parts, hparts, hbuilt⟩ := built_of_build h
  have hsnap : d.temporal = (together t parts).domain.snap.temporal := by cases hbuilt <;> rfl
  rw [hsnap]
  rcases snap_temporal (together t parts).domain with heq | heq <;> rw [heq]
  · rw [together, foldl_merge_bounds.2]
    refine Bounds.all_unbounded.foldl_tighten fun b hb => ?_
    obtain ⟨added, hadded, rfl⟩ := List.mem_map.mp hb
    obtain ⟨c, -, hpart⟩ := exists_of_mem_mapM hparts hadded
    exact endsMinute_of_part hpart
  · exact endsMinute_wholeDays _

open Binary64

variable {lo : Int} {current other : Option Float}

structure BeginsAt (cs : List Constraint) (lo : Int) : Prop where
  declared : ∃ high, .range (some (.int lo)) high ∈ cs
  greatest : ∀ low high, .range low high ∈ cs → ∀ a ∈ intBound? low, a ≤ lo

def AtMost (lo : Int) (bound : Option Float) : Prop :=
  ∀ x ∈ bound, ∃ a, x = Float.ofInt a ∧ isInt64 a = true ∧ a ≤ lo

def Reaches (lo : Int) (bound : Option Float) : Prop :=
  ∃ a, bound = some (Float.ofInt a) ∧ isInt64 a = true ∧ nearest a = nearest lo

theorem AtMost.raise (hcurrent : AtMost lo current) (hother : AtMost lo other) :
    AtMost lo (Bounds.raise current other) := by
  rcases Bounds.raise_eq_or current other with heq | heq <;> rw [heq]
  · exact hcurrent
  · exact hother

theorem Reaches.raise (hcurrent : Reaches lo current) (hother : AtMost lo other) :
    Reaches lo (Bounds.raise current other) := by
  obtain ⟨a, rfl, ha, heq⟩ := hcurrent
  cases other with
  | none => exact ⟨a, rfl, ha, heq⟩
  | some x =>
    obtain ⟨b, rfl, hb, hle⟩ := hother x rfl
    refine ⟨a, if_neg ?_, ha, heq⟩
    rw [ofInt_lt_ofInt (natAbs_le ha) (natAbs_le hb), heq]
    exact Int.not_lt.mpr (nearest_mono hle)

theorem AtMost.raise_reaches (hcurrent : AtMost lo current) (hother : Reaches lo other) :
    Reaches lo (Bounds.raise current other) := by
  obtain ⟨b, rfl, hb, heq⟩ := hother
  cases current with
  | none => exact ⟨b, rfl, hb, heq⟩
  | some x =>
    obtain ⟨a, rfl, ha, hle⟩ := hcurrent x rfl
    by_cases hlt : Float.ofInt a < Float.ofInt b
    · exact ⟨b, if_pos hlt, hb, heq⟩
    · refine ⟨a, if_neg hlt, ha, Int.le_antisymm (nearest_mono hle) ?_⟩
      rwa [ofInt_lt_ofInt (natAbs_le ha) (natAbs_le hb), Int.not_lt, heq] at hlt

theorem reaches_foldl_tighten {bs : List (Bounds Float)} {b : Bounds Float}
    (hall : ∀ c ∈ bs, AtMost lo c.min)
    (h : Reaches lo b.min ∨ AtMost lo b.min ∧ ∃ c ∈ bs, Reaches lo c.min) :
    Reaches lo (bs.foldl Bounds.tighten b).min := by
  induction bs generalizing b with
  | nil => simpa using h
  | cons c bs ih =>
    obtain ⟨hc, hbs⟩ := List.forall_mem_cons.mp hall
    refine ih hbs ?_
    show Reaches lo (Bounds.raise b.min c.min) ∨ AtMost lo (Bounds.raise b.min c.min) ∧ _
    rcases h with hreached | ⟨hb, other, hmem, hreached⟩
    · exact .inl (hreached.raise hc)
    · rcases List.mem_cons.mp hmem with rfl | hmem
      · exact .inl (hb.raise_reaches hreached)
      · exact .inr ⟨hb.raise hc, other, hmem, hreached⟩

theorem snap_numeric (h : d.terminal = .primitive .integer) :
    d.snap.numeric = wholeNumbers d.numeric := by
  cases d
  cases h
  rfl

/-- Integers are made up from the integer nearest to the greatest one that a range begins with. -/
theorem numeric_min_of_build (h : build (.primitive .integer) cs = .ok d) (hcs : AreIntRanges cs)
    (hlo : BeginsAt cs lo) : d.numeric.min = some (Float.ofInt (nearest lo)) := by
  obtain ⟨parts, hparts, hbuilt⟩ := built_of_build h
  have hsnap : d.numeric = (together (.primitive .integer) parts).domain.snap.numeric := by
    cases hbuilt <;> rfl
  have hmin : ∀ added ∈ parts, added.domain.numeric.min = none ∨ ∃ low high, .range low high ∈ cs ∧
      added.domain.numeric = intBounds low high ∧ IsIntBound low := by
    intro added hadded
    obtain ⟨c, hc, hpart⟩ := exists_of_mem_mapM hparts hadded
    cases honValue : c.isOnValue with
    | false =>
      left
      cases c <;> first | (cases hpart; rfl) | cases honValue
    | true =>
      obtain ⟨low, high, rfl, hlow, hhigh⟩ := hcs c hc honValue
      exact .inr ⟨low, high, hc, (part_range hlow hhigh hpart).1, hlow⟩
  have hatMost : ∀ b ∈ parts.map (·.domain.numeric), AtMost lo b.min := by
    intro b hb
    obtain ⟨added, hadded, rfl⟩ := List.mem_map.mp hb
    intro x hx
    rcases hmin added hadded with hnone | ⟨low, high, hc, hbounds, hlow⟩
    · rw [hnone] at hx
      cases hx
    · rw [hbounds] at hx
      obtain ⟨a, ha, rfl⟩ := Option.map_eq_some_iff.mp hx
      exact ⟨a, rfl, isInt64_of_mem_intBound? hlow ha, hlo.greatest low high hc a ha⟩
  obtain ⟨high, hc⟩ := hlo.declared
  obtain ⟨_, _, heq, hlow, hhigh⟩ := hcs _ hc rfl
  cases heq
  obtain ⟨added, hadded, hpart⟩ := mem_of_mapM hparts hc
  have hreached : Reaches lo added.domain.numeric.min := by
    rw [(part_range hlow hhigh hpart).1]
    exact ⟨lo, rfl, isInt64_of_mem_intBound? hlow rfl, rfl⟩
  obtain ⟨a, ha, hfits, hnearest⟩ := reaches_foldl_tighten hatMost
    (.inr ⟨nofun, _, List.mem_map_of_mem hadded, hreached⟩ : _ ∨ AtMost lo Bounds.unbounded.min ∧ _)
  rw [hsnap, snap_numeric foldl_merge_type.1, together, foldl_merge_bounds.1]
  show Option.map Binary64.ceil _ = _
  rw [show (unconstrained (.primitive .integer)).numeric = .unbounded from rfl, ha, Option.map_some,
    ceil_ofInt (natAbs_le hfits), hnearest]

end Domain

end Fixtures
