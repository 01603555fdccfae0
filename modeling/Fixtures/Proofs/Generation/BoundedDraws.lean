import Fixtures.Proofs.Domain.MergedChecks
import Fixtures.Proofs.Generation.Faults
import Fixtures.Proofs.Generation.FieldValues

namespace Fixtures

namespace Generation

open Fixtures.Random Timestamp

variable {p : Primitive} {t : Terminal} {cs : List Constraint} {d : Domain} {n : Nat} {v : Value}
    {day : Date}
  {default : LengthRange} {b : Bounds Nat} {base : Date}

namespace LengthRange

theorem gives_min_le (default : LengthRange) (b : Bounds Nat) :
    Gives (default.within b).draw fun n => b.min.getD 0 ≤ n :=
  (gives_draw (least_le_most_within default b)).mono fun _ hn =>
    Nat.le_trans (min_le_least_within default b) hn.1

/-- Lengths that are drawn are within the bounds, and greater than the usual ones only to reach the
least. -/
theorem contains_within (hdefault : default.least ≤ default.most) (h : b.isEmpty = false)
    (hleast : (default.within b).least ≤ n) (hmost : n ≤ (default.within b).most) :
    b.contains n = true ∧ n ≤ max (b.min.getD 0) default.most := by
  obtain ⟨min, max⟩ := b
  unfold within at hleast hmost
  unfold Bounds.isEmpty at h
  unfold Bounds.contains
  cases min <;> cases max <;>
    simp only [Option.getD_none, Option.getD_some, Option.map_none, Option.map_some,
      Option.all_none, Option.all_some, Bool.true_and, Bool.and_true, Bool.and_eq_true,
      decide_eq_true_eq, decide_eq_false_iff_not, true_and] at * <;>
    omega

theorem gives_within (hdefault : default.least ≤ default.most) (h : b.isEmpty = false) :
    Gives (default.within b).draw fun n => b.contains n = true ∧
      n ≤ max (b.min.getD 0) default.most :=
  (gives_draw (least_le_most_within default b)).mono fun _ hn =>
  contains_within hdefault h hn.1 hn.2

end LengthRange

theorem gives_alphanumeric (n : Nat) : Gives (alphanumeric n) fun s => s.length = n := by
  refine (gives_true _).bind fun _ _ => ?_
  refine (times_gives n (gives_true _)).bind fun cs hcs => gives_pure ?_
  rw [String.length_ofList, hcs.1]

theorem gives_fill (n : Nat) : Gives (fill n) fun bs => bs.length = n := by
  fun_induction fill n with
  | case1 n ih =>
    exact (gives_true _).bind fun word _ => ih.bind fun rest hrest =>
      gives_pure (by simp [bytesOf, hrest])
  | case2 => exact gives_pure rfl
  | case3 n hzero hfour =>
    refine (gives_true _).bind fun word _ => gives_pure ?_
    rw [List.length_take]
    simp only [bytesOf, List.length_cons, List.length_nil]
    rcases n with _ | _ | _ | _ | n <;> first | omega | exact (hzero n rfl).elim

theorem gives_bytes (n : Nat) : Gives (bytes n) fun bs => bs.length = n :=
  (gives_true _).bind fun _ _ => gives_fill n

theorem day_shiftDate (d : Date) (days : Int) :
    (shiftDate d days).day = d.day + days ∨ shiftDate d days = d := by
  unfold shiftDate
  cases h : d.addDays? days with
  | none => exact .inr rfl
  | some shifted => exact .inl (day_of_addDays? h)

theorem gives_randomDate (b : Bounds Timestamp) (base : Date) : Gives (randomDate b base) fun day =>
    (dateRange b base).1.day ≤ day.day ∧
      day.day ≤ max (dateRange b base).1.day (dateRange b base).2.day := by
  unfold randomDate
  generalize dateRange b base = range
  obtain ⟨first, last⟩ := range
  simp only
  split
  · exact gives_pure ⟨Int.le_refl _, by omega⟩
  · refine (gives_between _ (by omega)).bind fun offset hoffset => gives_pure ?_
    rcases day_shiftDate first offset with h | h <;> rw [h] <;> omega

theorem dayFrom_midnight (d : Date) : dayFrom (midnight d) = d :=
  if_pos (isMidnight_iff.mpr (rank_midnight d))

theorem gives_randomDate_midnights {first last : Option Date}
    (h : (Bounds.mk (first.map midnight) (last.map midnight)).isEmpty = false) :
    Gives (randomDate ⟨first.map midnight, last.map midnight⟩ base) fun day =>
      (Bounds.mk (first.map midnight) (last.map midnight)).contains (midnight day) = true := by
  refine (gives_randomDate _ base).mono fun day hday => ?_
  unfold Bounds.contains
  cases first with
  | none =>
    cases last with
    | none => rfl
    | some last =>
      have hshift := day_shiftDate last (-usualDays)
      simp only [dateRange, Option.map_none, Option.map_some, Option.all_none, Option.all_some,
        Bool.true_and, decide_eq_true_eq, midnight_le_midnight, date_midnight,
        usualDays] at hday hshift ⊢
      have hle : (shiftDate last (-365)).day ≤ last.day := by
        rcases hshift with h | h
        · omega
        · exact Int.le_of_eq (congrArg Date.day h)
      omega
  | some first =>
    cases last with
    | none =>
      simp only [dateRange, Option.map_none, Option.map_some, Option.all_none, Option.all_some,
        Bool.and_true, decide_eq_true_eq, midnight_le_midnight, dayFrom_midnight] at hday ⊢
      exact hday.1
    | some last =>
      have hle : first.day ≤ last.day :=
        midnight_le_midnight.mp (Std.not_lt.mp (of_decide_eq_false h))
      simp only [dateRange, Option.map_some, Option.all_some, Bool.and_eq_true, decide_eq_true_eq,
        midnight_le_midnight, date_midnight, dayFrom_midnight] at hday ⊢
      omega

/-- Texts, byte sequences and arrays that are drawn are no longer than this unless their least
length is greater. -/
def usualMost : Terminal → Nat
  | .array .. => 5
  | .primitive .binary => 32
  | .primitive _ => 20

theorem gives_randomScalar_length (h : b.isEmpty = false) : Gives (randomScalar p d b base) fun v =>
    ∀ n, v.length? = some n → b.contains n = true ∧
      n ≤ max (b.min.getD 0) (usualMost (.primitive p)) := by
  cases p with
  | string =>
    refine (LengthRange.gives_within (by decide) h).bind fun n hn => ?_
    refine (gives_alphanumeric n).bind fun s hs => gives_pure fun m hm => ?_
    cases hm
    rw [hs]
    exact hn
  | binary =>
    refine (LengthRange.gives_within (by decide) h).bind fun n hn => ?_
    refine (gives_bytes n).bind fun bs hbs => gives_pure fun m hm => ?_
    cases hm
    rw [hbs]
    exact hn
  | integer | decimal | boolean | date | timestamp | uuid | json =>
    exact (gives_true _).bind fun a _ => gives_pure fun m hm => by cases hm

theorem alwaysFails_randomScalar (h : byteLimit ≤ b.min.getD 0 * itemBytes (.primitive p)) :
    AlwaysFails (randomScalar p d b base) .listTooLong := by
  cases p with
  | string =>
    refine (LengthRange.isTotal_draw _).alwaysFails_bind (LengthRange.gives_min_le _ b)
      fun n hn => ?_
    exact (alwaysFails_alphanumeric (Nat.le_trans h (Nat.mul_le_mul_right _ hn))).bind
  | binary =>
    refine (LengthRange.isTotal_draw _).alwaysFails_bind (LengthRange.gives_min_le _ b)
      fun n hn => ?_
    exact (alwaysFails_bytes (Nat.le_trans h (Nat.mul_le_mul_right _ hn))).bind
  | integer | decimal | boolean | date | timestamp | uuid | json =>
    simp only [itemBytes, Nat.mul_zero] at h
    exact absurd h (by decide)

end Generation

namespace Model.Field

/-- A field, not of numbers and not of instants, that has bounds only. Each of them admits some date
if it is about dates. -/
structure HasBounds (f : Field) : Prop where
  built : Domain.build f.terminal f.constraints = .ok f.domain
  bounds : ∀ c ∈ f.constraints, c.isOnValue = true → c.IsBound
  numeric : f.terminal.element.isNumeric = false
  timestamp : f.terminal.element ≠ .timestamp
  dates : ∀ check ∈ f.domain.elementChecks, ∃ day, check.admits (.date day) = true

end Model.Field

namespace Domain

open Generation

/-- A value that a domain admits and that is no longer than usual. An array of fixed length may be,
but what is in it is not. -/
structure AdmitsUsual (d : Domain) (v : Value) : Prop where
  admitted : d.admits v = true
  short : d.terminal.fixedLength? = none → ∀ n, v.length? = some n →
    n ≤ max (d.length.min.getD 0) (usualMost d.terminal)
  items : ∀ items, v = .array items → ∀ item ∈ items, ∀ n, item.length? = some n →
    n ≤ usualMost (.primitive d.terminal.element)

end Domain

namespace Generation

open Fixtures.Random Timestamp

namespace ValueRequest

variable {f : Model.Field} {q : ValueRequest} {v : Value} {b : Bounds Nat}

theorem terminal_domain (h : f.HasBounds) : f.domain.terminal = f.terminal :=
  (Domain.isOf_of_build h.built).terminal

theorem gives_randomScalar_element (h : f.HasBounds) (b : Bounds Nat) (base : Date) :
    Gives (randomScalar f.terminal.element f.domain b base) fun v =>
      f.domain.elementRefusal? v = none := by
  by_cases hdate : f.terminal.element = .date
  · obtain ⟨first, last, htemporal⟩ := Domain.exists_days_of_build h.built h.bounds hdate
    have hdays := (Domain.isEmpty_of_build h.built).1
    rw [hdate]
    have hgives : Gives (randomDate f.domain.temporal base) fun day =>
        f.domain.temporal.contains (midnight day) = true := by
      rw [htemporal] at hdays ⊢
      exact gives_randomDate_midnights hdays
    refine hgives.bind fun day hday => gives_pure ?_
    exact (Domain.elementRefusal?_date h.built h.bounds hdate h.dates).mpr hday
  · have htemporal : f.terminal.element.isTemporal = false := by
      have htimestamp := h.timestamp
      cases hp : f.terminal.element <;> simp_all [Primitive.isTemporal]
    exact (gives_true _).mono fun v _ =>
      Domain.elementRefusal?_of_bounds h.built h.bounds h.numeric htemporal v

/-- A request for a value at random of a field that has bounds only. -/
structure IsRandom (q : ValueRequest) : Prop where
  field : q.field.HasBounds
  strategy : q.plan.strategy = .random
  pattern : q.plan.pattern = none

namespace IsRandom

variable (h : q.IsRandom)
include h

theorem element_eq (p : Primitive) (b : Bounds Nat) (synthetic : Bool) :
    q.element p b synthetic = randomScalar p q.field.domain b q.baseDate := by
  unfold element strategyValue
  rw [(Domain.unlisted_of_build h.field.built h.field.bounds).1, h.pattern, h.strategy]
  cases synthetic <;> rfl

theorem isTotal_typedValue (hshort : ¬ q.field.domain.TooLong) (synthetic : Bool) :
    IsTotal (q.typedValue synthetic) := by
  have htexts : q.plan.HasTexts := fun _ _ hfaker => by cases h.strategy.symm.trans hfaker
  refine (faultsOnly_typedValue htexts synthetic).mono fun f hfails => ?_
  cases hfails with
  | tooLong _ hlong => exact hshort hlong
  | tooFar _ hstrategy => cases h.strategy.symm.trans hstrategy
  | tooWide _ hdecimal =>
    have hnumeric := h.field.numeric
    rw [terminal_domain h.field] at hdecimal
    rw [hdecimal] at hnumeric
    cases hnumeric

theorem alwaysFails_typedValue (hlong : q.field.domain.TooLong) (synthetic : Bool) :
    AlwaysFails (q.typedValue synthetic) .listTooLong := by
  have hterminal := terminal_domain h.field
  have helement := h.element_eq
  unfold Domain.TooLong Domain.leastLength at hlong
  unfold typedValue
  simp only [hterminal] at hlong ⊢
  generalize q.field.terminal = t at hlong ⊢
  cases t with
  | primitive p =>
    simp only [helement]
    exact alwaysFails_randomScalar hlong
  | array item fixed =>
    cases fixed with
    | none =>
      refine (LengthRange.isTotal_draw _).alwaysFails_bind (LengthRange.gives_min_le _ _)
        fun n hn => ?_
      exact (alwaysFails_reserve (Nat.le_trans hlong (Nat.mul_le_mul_right _ hn))).bind
    | some m =>
      refine (LengthRange.isTotal_draw _).alwaysFails_bind (gives_draw_of_eq m) fun n hn => ?_
      exact (alwaysFails_reserve (hn ▸ hlong)).bind

/-- What is drawn within bounds of length is of its type, passes the checks of the field and is no
longer than usual. -/
theorem gives_element (synthetic : Bool) (b : Bounds Nat) (hb : b.isEmpty = false) :
    Gives (q.element q.field.terminal.element b synthetic) fun v =>
      v.kind? = some q.field.terminal.element ∧ q.field.domain.elementRefusal? v = none ∧
        ∀ n, v.length? = some n →
          b.contains n = true ∧ n ≤
            max (b.min.getD 0) (usualMost (.primitive q.field.terminal.element)) := by
  rw [h.element_eq]
  intro s v t hv
  exact ⟨gives_randomScalar _ _ _ _ s v t hv, gives_randomScalar_element h.field _ _ s v t hv,
    gives_randomScalar_length hb s v t hv⟩

theorem gives_typedValue (synthetic : Bool) :
    Gives (q.typedValue synthetic) q.field.domain.AdmitsUsual := by
  have hterminal := terminal_domain h.field
  have hbuilt := h.field.built
  have hlengths := (Domain.isEmpty_of_build hbuilt).2
  have hdraws := h.gives_element synthetic
  unfold typedValue
  simp only [hterminal]
  generalize q.field.terminal = t at hterminal hbuilt hdraws
  cases t with
  | primitive p =>
    refine (hdraws q.field.domain.length hlengths).mono fun v hv => ?_
    obtain ⟨hkind, helement, hlength⟩ := hv
    refine ⟨Domain.admits_of_primitive hbuilt hkind helement fun n hn => (hlength n hn).1,
      fun _ n hn => ?_, ?_⟩
    · rw [hterminal]
      exact (hlength n hn).2
    · rintro items rfl
      cases hkind
  | array item fixed =>
    refine Gives.bind (p := fun n => q.field.domain.length.contains n = true ∧
      (fixed = none → n ≤ max (q.field.domain.length.min.getD 0) 5)) ?_ fun n hn =>
        (gives_true _).bind fun _ _ =>
          (times_gives n (hdraws .unbounded rfl)).bind fun items hitems => gives_pure ?_
    · cases fixed with
      | none =>
        exact (LengthRange.gives_within (by decide) hlengths).mono fun n hn => ⟨hn.1, fun _ => hn.2⟩
      | some m =>
        refine (gives_draw_of_eq m).mono fun n hn => ⟨?_, fun hnone => by cases hnone⟩
        rw [hn]
        exact Domain.contains_length_of_fixed hbuilt rfl
    obtain ⟨rfl, hitems⟩ := hitems
    refine ⟨Domain.admits_of_array hbuilt hn.1 fun i hi => (hitems i hi).2.1, fun hfixed m hm => ?_,
      ?_⟩
    · rw [hterminal] at hfixed ⊢
      cases hm
      exact hn.2 hfixed
    · intro items' heq i hi m hm
      cases heq
      rw [hterminal]
      exact Nat.le_trans ((hitems i hi).2.2 m hm).2 (Nat.max_le.mpr ⟨Nat.zero_le _, Nat.le_refl _⟩)

end IsRandom

theorem value_of_candidate {s u : Source} {attempts : Nat}
    (hcandidate : q.candidate true s = .ok (v, u))
    (hv : q.field.domain.admits v = true) (hattempts : 0 < attempts) :
    q.value attempts s = .ok (.ok v, u) := by
  obtain ⟨rest, rfl⟩ := Nat.exists_eq_succ_of_ne_zero (Nat.ne_of_gt hattempts)
  have hsynthetic : decide (0 < (rest + 1 + 1) / 2) = true := decide_eq_true (by omega)
  rw [Domain.admits, Option.isNone_iff_eq_none] at hv
  unfold value search
  simp only [hsynthetic, Bind.bind, StateT.bind, Except.bind, hcandidate, hv]
  rfl

theorem IsRandom.candidate_eq (h : q.IsRandom) (hderived : q.derivedValue? = none) :
    q.candidate true = q.typedValue true := by
  have hdefault : q.defaultValue? = none := by
    unfold defaultValue?
    rw [h.strategy]
  unfold candidate
  rw [if_pos rfl, hderived, hdefault]

theorem IsRandom.exists_candidate (h : q.IsRandom) (hshort : ¬ q.field.domain.TooLong)
    (s : Source) : ∃ v u, q.candidate true s = .ok (v, u) ∧ q.field.domain.admits v = true := by
  cases hderived : q.derivedValue? with
  | some v =>
    have hcandidate : q.candidate true s = .ok (v, s) := by
      unfold candidate
      rw [if_pos rfl, hderived]
      rfl
    refine ⟨v, s, hcandidate, ?_⟩
    unfold derivedValue? at hderived
    split at hderived
    · exact (Option.filter_eq_some_iff.mp hderived).2
    · cases hderived
  | none =>
    rw [h.candidate_eq hderived]
    obtain ⟨v, u, hv, husual⟩ :=
      (h.isTotal_typedValue hshort true).exists_of_gives (h.gives_typedValue true) s
    exact ⟨v, u, hv, husual.admitted⟩

theorem IsRandom.value_eq_error (h : q.IsRandom) (hlong : q.field.domain.TooLong)
    (hderived : q.derivedValue? = none) {attempts : Nat} (hattempts : 0 < attempts) (s : Source) :
    q.value attempts s = .error .listTooLong := by
  obtain ⟨rest, rfl⟩ := Nat.exists_eq_succ_of_ne_zero (Nat.ne_of_gt hattempts)
  have hsynthetic : decide (0 < (rest + 1 + 1) / 2) = true := decide_eq_true (by omega)
  unfold value search
  simp only [hsynthetic, h.candidate_eq hderived]
  exact (h.alwaysFails_typedValue hlong true).bind s

theorem isRandom_of_planField {table : Model.Table} {foreignKeys : List ForeignKeyPlan}
    {nullRate : Float} {index : Nat} {config : StrategyConfig} (hfield : q.field.HasBounds)
    (hplan : TablePlan.planField table foreignKeys nullRate index q.field config = .ok q.plan)
    (hrandom : config.strategy = .random) : q.IsRandom := by
  obtain ⟨pattern, hpattern, hplan⟩ := bind_eq_ok.mp hplan
  have hnone : pattern = none := by
    unfold TablePlan.fieldPattern at hpattern
    simp only [hrandom, (Domain.unlisted_of_build hfield.built hfield.bounds).2, List.head?_nil]
      at hpattern
    split at hpattern <;> cases hpattern <;> rfl
  have hq := Except.ok.inj hplan
  refine ⟨hfield, ?_, ?_⟩ <;> rw [← hq]
  · exact hrandom
  · exact hnone

/-- Where a field has bounds only, values at random are admitted at the first draw, from whatever
source and base date. They are no longer than usual, however great the bounds are, unless the least
length is greater or fixed. If no list can have the least length, every draw fails. -/
theorem random_draws_fit {table : Model.Table} {foreignKeys : List ForeignKeyPlan}
    {nullRate : Float} {index : Nat} {config : StrategyConfig} (hfield : q.field.HasBounds)
    (hplan : TablePlan.planField table foreignKeys nullRate index q.field config = .ok q.plan)
    (hrandom : config.strategy = .random) (s : Source) :
    (¬ q.field.domain.TooLong →
      (∀ synthetic, ∃ v u, q.typedValue synthetic s = .ok (v, u) ∧ q.field.domain.AdmitsUsual v) ∧
        ∃ v u, q.candidate true s = .ok (v, u) ∧ q.field.domain.admits v = true ∧
          ∀ attempts, 0 < attempts → q.value attempts s = .ok (.ok v, u)) ∧
      (q.field.domain.TooLong →
        (∀ synthetic, q.typedValue synthetic s = .error .listTooLong) ∧
          (q.derivedValue? = none →
            ∀ attempts, 0 < attempts → q.value attempts s = .error .listTooLong)) := by
  have hq : q.IsRandom := isRandom_of_planField hfield hplan hrandom
  refine ⟨fun hshort => ⟨fun synthetic => ?_, ?_⟩, fun hlong => ⟨fun synthetic => ?_, ?_⟩⟩
  · exact (hq.isTotal_typedValue hshort synthetic).exists_of_gives (hq.gives_typedValue synthetic) s
  · obtain ⟨v, u, hcandidate, hv⟩ := hq.exists_candidate hshort s
    exact ⟨v, u, hcandidate, hv, fun attempts => value_of_candidate hcandidate hv⟩
  · exact hq.alwaysFails_typedValue hlong synthetic s
  · exact fun hderived attempts hattempts => hq.value_eq_error hlong hderived hattempts s

def springDays (domain : Domain) : Model.Field :=
  ⟨"days", .array .date none, none, Domain.springBounds, domain, false, none, none⟩

def springTable (domain : Domain) : Model.Table :=
  ⟨"springs", [springDays domain], none, [], [], [], {}, none⟩

def leapDay : Date :=
  ⟨19782, by decide, by decide⟩

def springRequest (domain : Domain) (plan : FieldPlan) : ValueRequest :=
  ⟨springDays domain, plan, 0, 0, leapDay⟩

theorem random_draws_fit_spring : ∃ (q : ValueRequest) (config : StrategyConfig),
    q.field.HasBounds ∧
      TablePlan.planField (springTable q.field.domain) [] 0.0 0 q.field config = .ok q.plan ∧
      config.strategy = .random ∧ ∃ v u, q.typedValue true (Source.ofSeed 7) = .ok (v, u) ∧
        q.field.domain.AdmitsUsual v := by
  have hbuilt : (Domain.build (.array .date none) Domain.springBounds).toOption.any
      (fun d => decide (¬ d.TooLong) &&
        d.elementChecks.all fun check => check.admits (.date leapDay)) = true := by decide +kernel
  obtain ⟨d, hd, hshort⟩ := (Option.any_eq_true _ _).mp hbuilt
  obtain ⟨hshort, hleap⟩ := Bool.and_eq_true_iff.mp hshort
  have hfield : (springDays d).HasBounds := by
    refine ⟨toOption_eq_some.mp hd, ?_, rfl, (by decide : Primitive.date ≠ .timestamp), ?_⟩
    · simp [springDays, Domain.springBounds, Constraint.IsBound]
    · exact fun check hcheck => ⟨leapDay, List.all_eq_true.mp hleap check hcheck⟩
  obtain ⟨plan, hplan⟩ : ∃ plan, TablePlan.planField (springTable d) [] 0.0 0 (springDays d)
      ⟨.random, none, none⟩ = .ok plan := ⟨_, rfl⟩
  exact ⟨springRequest d plan, ⟨.random, none, none⟩, hfield, hplan, rfl,
    ((random_draws_fit (q := springRequest d plan) hfield hplan rfl (Source.ofSeed 7)).1
      (of_decide_eq_true hshort)).1 true⟩

def longBounds : List Constraint :=
  [.length (some 18446744073709551615) none]

def longBytes (domain : Domain) : Model.Field :=
  ⟨"bytes", .primitive .binary, none, longBounds, domain, false, none, none⟩

theorem not_random_draws_always_fit : ¬ ∀ (q : ValueRequest) (config : StrategyConfig),
    q.field.HasBounds →
      (∃ table, TablePlan.planField table [] 0.0 0 q.field config = .ok q.plan) →
      config.strategy = .random → ∀ s, ∃ v u, q.typedValue true s = .ok (v, u) := by
  intro h
  have hbuilt : (Domain.build (.primitive .binary) longBounds).toOption.any
      (fun d => decide d.TooLong && d.elementChecks.isEmpty) = true := by decide +kernel
  obtain ⟨d, hd, hlong⟩ := (Option.any_eq_true _ _).mp hbuilt
  obtain ⟨hlong, hchecks⟩ := Bool.and_eq_true_iff.mp hlong
  have hfield : (longBytes d).HasBounds := by
    refine ⟨toOption_eq_some.mp hd, ?_, rfl, (by decide : Primitive.binary ≠ .timestamp), ?_⟩
    · simp [longBytes, longBounds, Constraint.IsBound]
    · intro check hcheck
      rw [show (longBytes d).domain.elementChecks = [] from List.isEmpty_iff.mp hchecks] at hcheck
      cases hcheck
  obtain ⟨plan, hplan⟩ : ∃ plan, TablePlan.planField (springTable d) [] 0.0 0 (longBytes d)
      ⟨.random, none, none⟩ = .ok plan := ⟨_, rfl⟩
  let q : ValueRequest := ⟨longBytes d, plan, 0, 0, leapDay⟩
  have hrandom : q.IsRandom := isRandom_of_planField hfield hplan rfl
  obtain ⟨v, u, hv⟩ := h q ⟨.random, none, none⟩ hfield ⟨_, hplan⟩ rfl (Source.ofSeed 7)
  rw [hrandom.alwaysFails_typedValue (of_decide_eq_true hlong) true] at hv
  cases hv

end ValueRequest

end Generation

end Fixtures
