import Fixtures.Generation.Row
import Fixtures.Proofs.Generation.RowKeys

namespace Fixtures.Domain

/-- Domains as they are made: of a type alone, or of a type and constraints. -/
inductive IsMade : Domain → Prop
  | unconstrained (t : Terminal) : IsMade (.unconstrained t)
  | built {t : Terminal} {cs : List Constraint} {d : Domain} (h : build t cs = .ok d) : IsMade d

theorem IsMade.endsMinute {d : Domain} (h : d.IsMade) : d.temporal.All Calendar.EndsMinute := by
  cases h with
  | unconstrained t => exact Bounds.all_unbounded
  | built h => exact endsMinute_of_build h

end Fixtures.Domain

namespace Fixtures.Generation

variable {p : Primitive} {d : Domain} {topic : Faker.Topic} {field : String} {base : Date} {n : Nat}
    {v : Value}

namespace TableJob

variable {job : TableJob} {row row' attempt attempt' : Nat}

/-- Every attempt takes as many numbers as the table has rows, up to the greatest number. -/
theorem ordinal_eq (job : TableJob) (row attempt : Nat) :
    job.ordinal row attempt = min (row + (attempt - 1) * job.plan.count) maxOrdinal := by
  unfold ordinal
  omega

theorem ordinal_injective (hrow : row < job.plan.count) (hrow' : row' < job.plan.count)
    (hattempt : 1 ≤ attempt) (hattempt' : 1 ≤ attempt') (hlt : job.ordinal row attempt < maxOrdinal)
    (h : job.ordinal row attempt = job.ordinal row' attempt') :
    row = row' ∧ attempt = attempt' := by
  have hsame : row + (attempt - 1) * job.plan.count = row' + (attempt' - 1) * job.plan.count := by
    rw [ordinal_eq] at hlt
    rw [ordinal_eq, ordinal_eq] at h
    omega
  have hrows : row = row' := by
    have hmod := congrArg (· % job.plan.count) hsame
    simpa [Nat.mod_eq_of_lt hrow, Nat.mod_eq_of_lt hrow'] using hmod
  subst hrows
  have hattempts : attempt - 1 = attempt' - 1 :=
    Nat.eq_of_mul_eq_mul_right (Nat.zero_lt_of_lt hrow) (Nat.add_left_cancel hsame)
  omega

end TableJob

theorem admits_of_keyedValue? (h : keyedValue? p d topic field n base = some v) :
    d.admits v = true :=
  (Option.filter_eq_some_iff.mp h).2

/-- At different numbers there are different keys, and different attempts at rows have different
numbers as long as these stay below the greatest one. -/
theorem keys_of_attempts_differ (hd : d.IsMade) (hp : p ∈ countedTypes) (topic : Faker.Topic)
    (field : String) (base : Date) :
    (∀ m n v w, m < maxOrdinal → n < maxOrdinal → m ≠ n →
      keyedValue? p d topic field m base = some v →
      keyedValue? p d topic field n base = some w →
        v.key ≠ w.key ∧ d.admits v = true ∧ d.admits w = true) ∧
    ∀ job : TableJob,
      (∀ row attempt, job.ordinal row attempt =
          min (row + (attempt - 1) * job.plan.count) maxOrdinal) ∧
      ∀ row row' attempt attempt', row < job.plan.count → row' < job.plan.count →
        1 ≤ attempt → 1 ≤ attempt' →
        (row, attempt) ≠ (row', attempt') → job.ordinal row attempt < maxOrdinal →
        job.ordinal row attempt ≠ job.ordinal row' attempt' := by
  refine ⟨fun m n v w hm hn hne hv hw => ⟨fun hkey => ?_, admits_of_keyedValue? hv,
    admits_of_keyedValue? hw⟩, fun job => ⟨job.ordinal_eq,
    fun row row' attempt attempt' hrow hrow' ha ha' hne hlt heq => ?_⟩⟩
  · exact hne (ordinal_eq_of_key_eq hp hd.endsMinute hm hn hv hw hkey)
  · obtain ⟨rfl, rfl⟩ := TableJob.ordinal_injective hrow hrow' ha ha' hlt heq
    exact hne rfl

/-- Instants from a leap second on, which is the first key; the next one is the second that comes
after it. Of three rows the last one has its number before the first one has that of its second
attempt. -/
theorem keys_of_attempts_differ_leap : ∃ d v w,
    Domain.build (.primitive .timestamp) [.range (some (.text "2016-12-31T23:59:60")) none] =
      .ok d ∧
    keyedValue? .timestamp d .word "at" 0 default = some v ∧ v.key = "2016-12-31T23:59:60" ∧
    keyedValue? .timestamp d .word "at" 1 default = some w ∧ w.key = "2017-01-01T00:00:00" ∧
    (v.key ≠ w.key ∧ d.admits v = true ∧ d.admits w = true) ∧
    ∃ job : TableJob, job.plan.count = 3 ∧ job.ordinal 2 1 = 2 ∧ job.ordinal 0 2 = 3 ∧
      job.ordinal 2 1 ≠ job.ordinal 0 2 := by
  let job : TableJob :=
    { table := ⟨"t", [], none, [], [], [], {}, none⟩
      plan := ⟨"t", [], [], [], [], 3, .random⟩
      references := {}
      options := {}
      seed := 0 }
  have hbuild : (Domain.build (.primitive .timestamp)
      [.range (some (.text "2016-12-31T23:59:60")) none]).toOption.isSome := by
    decide +kernel
  have hkeys : ∀ d ∈ (Domain.build (.primitive .timestamp)
      [.range (some (.text "2016-12-31T23:59:60")) none]).toOption,
      (keyedValue? .timestamp d .word "at" 0 default).map Value.key = some "2016-12-31T23:59:60" ∧
      (keyedValue? .timestamp d .word "at" 1 default).map Value.key =
      some "2017-01-01T00:00:00" := by
    decide +kernel
  obtain ⟨d, hd⟩ := Option.isSome_iff_exists.mp hbuild
  obtain ⟨hfirst, hsecond⟩ := hkeys d hd
  obtain ⟨v, hv, hvkey⟩ := Option.map_eq_some_iff.mp hfirst
  obtain ⟨w, hw, hwkey⟩ := Option.map_eq_some_iff.mp hsecond
  have hmade := toOption_eq_some.mp hd
  have hcounted : Primitive.timestamp ∈ countedTypes := by decide
  obtain ⟨hdiffer, hjobs⟩ := keys_of_attempts_differ (.built hmade) hcounted .word "at" default
  exact ⟨d, v, w, hmade, hv, hvkey, hw, hwkey,
    hdiffer 0 1 v w (by decide) (by decide) (by decide) hv hw, job, rfl, rfl, rfl,
    (hjobs job).2 2 0 1 2 (by decide) (by decide) (by decide) (by decide) (by decide) (by decide)⟩

end Fixtures.Generation
