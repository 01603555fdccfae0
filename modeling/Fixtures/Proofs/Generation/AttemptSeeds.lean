import Mathlib.Data.Nat.ModEq
import Mathlib.Data.Nat.Prime.Basic
import Mathlib.Data.Set.Function
import Fixtures.Generation.Run

namespace Fixtures.Generation

variable {seed seed' k : UInt64} {row row' attempt attempt' : Nat}

/-- An odd factor has no divisor in common with the number of words, so it can be cancelled. -/
theorem mul_injective_of_odd (h : Odd k.toNat) : Function.Injective fun word :
    UInt64 => word * k := by
  intro a b hab
  have hcoprime : (2 ^ 64).Coprime k.toNat := (Nat.coprime_two_left.mpr h).pow_left 64
  have hproducts : a.toNat * k.toNat ≡ b.toNat * k.toNat [MOD 2 ^ 64] := by
    have hwords := congrArg UInt64.toNat hab
    rwa [UInt64.toNat_mul, UInt64.toNat_mul] at hwords
  have hfactors := Nat.ModEq.cancel_right_of_coprime hcoprime hproducts
  exact UInt64.toNat_inj.mp (hfactors.eq_of_lt_of_lt a.toNat_lt b.toNat_lt)

theorem ofNat_eq_ofNat_iff {m n : Nat} :
    UInt64.ofNat m = UInt64.ofNat n ↔ m ≡ n [MOD twoTo 64] := by
  rw [← UInt64.toNat_inj, UInt64.toNat_ofNat', UInt64.toNat_ofNat']
  rfl

theorem hashByte_injective (byte : UInt8) : Function.Injective fun hash => hashByte hash byte := by
  intro hash hash' h
  have hmixed := mul_injective_of_odd (k := 0x100000001b3) (by decide) h
  exact (UInt64.xor_left_inj _).mp hmixed

theorem foldl_hashByte_injective (bytes : List UInt8) :
    Function.Injective fun hash => bytes.foldl hashByte hash := by
  induction bytes with
  | nil => exact Function.injective_id
  | cons byte bytes ih => exact ih.comp (hashByte_injective byte)

theorem tableSeed_injective (table : String) :
    Function.Injective fun seed => tableSeed seed table := by
  intro seed seed' h
  have hstart := foldl_hashByte_injective table.toUTF8.data.toList h
  exact (UInt64.xor_left_inj _).mp hstart

/-- What is multiplied at the end: the factor is odd, so nothing is lost in that step. -/
theorem rowSeed_eq_rowSeed_iff : rowSeed seed row attempt = rowSeed seed' row' attempt' ↔
    (seed ^^^ (UInt64.ofNat row * 0x9e3779b97f4a7c15)) ^^^ UInt64.ofNat attempt =
      (seed' ^^^ (UInt64.ofNat row' * 0x9e3779b97f4a7c15)) ^^^ UInt64.ofNat attempt' :=
  (mul_injective_of_odd (by decide)).eq_iff

theorem rowSeed_injective (row attempt : Nat) :
    Function.Injective fun seed => rowSeed seed row attempt := by
  intro seed seed' h
  have hmixed := (UInt64.xor_left_inj _).mp (rowSeed_eq_rowSeed_iff.mp h)
  exact (UInt64.xor_left_inj _).mp hmixed

theorem rowSeed_eq_iff_row :
    rowSeed seed row attempt = rowSeed seed row' attempt ↔ row ≡ row' [MOD twoTo 64] := by
  have hfactor : Function.Injective fun word : UInt64 => word * 0x9e3779b97f4a7c15 :=
    mul_injective_of_odd (by decide)
  rw [rowSeed_eq_rowSeed_iff, UInt64.xor_left_inj, UInt64.xor_right_inj, hfactor.eq_iff,
    ofNat_eq_ofNat_iff]

theorem rowSeed_eq_iff_attempt :
    rowSeed seed row attempt = rowSeed seed row attempt' ↔ attempt ≡ attempt' [MOD twoTo 64] := by
  rw [rowSeed_eq_rowSeed_iff, UInt64.xor_right_inj, ofNat_eq_ofNat_iff]

theorem rowSeed_injOn_rows (seed : UInt64) (attempt : Nat) :
    Set.InjOn (fun row => rowSeed seed row attempt) {row | row < twoTo 64} :=
  fun _ hrow _ hrow' h => (rowSeed_eq_iff_row.mp h).eq_of_lt_of_lt hrow hrow'

theorem rowSeed_injOn_attempts (seed : UInt64) (row : Nat) :
    Set.InjOn (fun attempt => rowSeed seed row attempt) {attempt | attempt < twoTo 64} :=
  fun _ hattempt _ hattempt' h => (rowSeed_eq_iff_attempt.mp h).eq_of_lt_of_lt hattempt hattempt'

def TableJob.attemptSeed (job : TableJob) (row attempt : Nat) : UInt64 :=
  rowSeed job.seed row attempt

/-- Seeds lose nothing on the way from the run to the attempt at a row, as long as rows and attempts
are numbers of 64 bits. -/
theorem attempts_have_own_seeds :
    (∀ table, Function.Injective fun seed => tableSeed seed table) ∧
    (∀ seed attempt, Set.InjOn (fun row => rowSeed seed row attempt) {row | row < twoTo 64}) ∧
    (∀ seed row,
      Set.InjOn (fun attempt => rowSeed seed row attempt) {attempt | attempt < twoTo 64}) ∧
    ∀ (run : Run) (table : Model.Table) (plan : TablePlan) (references : References),
      let job := run.job table plan references
      (∀ row attempt,
        job.rowValues row attempt =
          (job.drawValues row attempt).onSeed (job.attemptSeed row attempt)) ∧
      (∀ (run' : Run) (table' : Model.Table) (plan' : TablePlan) (references' : References)
        (row attempt : Nat), plan'.name = plan.name → run'.seed ≠ run.seed →
          (run'.job table' plan' references').attemptSeed row attempt ≠
            job.attemptSeed row attempt) ∧
      (∀ attempt, Set.InjOn (fun row => job.attemptSeed row attempt) {row | row < twoTo 64}) ∧
      ∀ row,
        Set.InjOn (fun attempt => job.attemptSeed row attempt) {attempt | attempt < twoTo 64} := by
  refine ⟨tableSeed_injective, rowSeed_injOn_rows, rowSeed_injOn_attempts, ?_⟩
  intro run table plan references job
  refine ⟨fun _ _ => rfl, ?_, rowSeed_injOn_rows job.seed, rowSeed_injOn_attempts job.seed⟩
  intro run' table' plan' references' row attempt hname hseed hsame
  have htables : tableSeed run'.seed plan'.name = tableSeed run.seed plan.name :=
    rowSeed_injective row attempt hsame
  rw [hname] at htables
  exact hseed (tableSeed_injective plan.name htables)

/-- Rows, attempts and runs of a table of users. The last row is the greatest one of 64 bits. -/
theorem attempts_have_own_seeds_users :
    tableSeed 1 "users" ≠ tableSeed 2 "users" ∧
    rowSeed (tableSeed 42 "users") 3 1 ≠ rowSeed (tableSeed 42 "users") 18446744073709551615 1 ∧
    rowSeed (tableSeed 42 "users") 3 1 ≠ rowSeed (tableSeed 42 "users") 3 2 ∧
    rowSeed (tableSeed 1 "users") 3 1 ≠ rowSeed (tableSeed 2 "users") 3 1 := by
  let run (seed : UInt64) : Run := ⟨⟨"s", [], [], []⟩, {}, seed, []⟩
  let plan : TablePlan := ⟨"users", [], [], [], [], 4, .random⟩
  obtain ⟨htables, hrows, hattempts, hruns⟩ := attempts_have_own_seeds
  obtain ⟨-, hseeds, -, -⟩ := hruns (run 2) ⟨"users", [], none, [], [], [], {}, none⟩ plan {}
  refine ⟨?_, ?_, ?_, ?_⟩
  · exact (htables "users").ne (by decide)
  · exact (hrows _ 1).ne (by decide) (by decide) (by decide)
  · exact (hattempts _ 3).ne (by decide) (by decide) (by decide)
  · exact hseeds (run 1) ⟨"users", [], none, [], [], [], {}, none⟩ plan {} 3 1 rfl (by decide)

end Fixtures.Generation
