import Fixtures.Check.Evaluation
import Fixtures.Generation.Row
import Fixtures.Proofs.Check.Printing
import Fixtures.Proofs.Generation.Planning
import Fixtures.Proofs.Model.WellFormed
import Fixtures.Proofs.Text.Names

namespace Fixtures.Check.Expression

variable {row other : String → Option Value} {e : Expression} {items : List Expression}
    {names : List String}
  {x : String}

def AgreeOn (names : List String) (row other : String → Option Value) : Prop :=
  ∀ x ∈ names, row x = other x

theorem agreeOn_append {more : List String} :
    AgreeOn (names ++ more) row other ↔ AgreeOn names row other ∧ AgreeOn more row other :=
  List.forall_mem_append

theorem agreeOn_fields : AgreeOn e.fields row other ↔ AgreeOn e.mentions row other := by
  simp only [AgreeOn, fields, Text.mem_nameSet]

theorem mem_mentionsIn : x ∈ mentionsIn items ↔ ∃ item ∈ items, x ∈ item.mentions := by
  induction items with
  | nil => simp [mentionsIn]
  | cons item items ih => simp [mentionsIn, ih]

theorem AgreeOn.item (h : AgreeOn (mentionsIn items) row other) {item : Expression}
    (hitem : item ∈ items) :
    AgreeOn item.mentions row other :=
  fun x hx => h x (mem_mentionsIn.mpr ⟨item, hitem, hx⟩)

theorem evaluateAll_congr (h : ∀ item ∈ items, item.evaluate row = item.evaluate other) :
    evaluateAll row items = evaluateAll other items := by
  induction items with
  | nil => rw [evaluateAll, evaluateAll]
  | cons item items ih =>
    obtain ⟨hitem, hitems⟩ := List.forall_mem_cons.mp h
    rw [evaluateAll, evaluateAll, hitem, ih hitems]

theorem evaluate_congr (h : AgreeOn e.mentions row other) : e.evaluate row = e.evaluate other := by
  induction e using Expression.induction with
  | literal l => rw [evaluate, evaluate]
  | field name => rw [evaluate, evaluate, h name List.mem_cons_self]
  | not e ih => rw [evaluate, evaluate, ih h]
  | neg e ih => rw [evaluate, evaluate, ih h]
  | or left right ihleft ihright | and left right ihleft ihright =>
    obtain ⟨hleft, hright⟩ := agreeOn_append.mp h
    rw [evaluate, evaluate, ihleft hleft, ihright hright]
  | compare op left right ihleft ihright | arithmetic op left right ihleft ihright =>
    obtain ⟨hleft, hright⟩ := agreeOn_append.mp h
    rw [evaluate, evaluate, ihleft hleft, ihright hright]
  | oneOf negated e items ih ihitems =>
    obtain ⟨he, hitems⟩ := agreeOn_append.mp h
    rw [evaluate, evaluate, ih he, evaluateAll_congr fun item hitem =>
      ihitems item hitem (hitems.item hitem)]
  | between negated e low high ih ihlow ihhigh =>
    obtain ⟨hlower, hhigh⟩ := agreeOn_append.mp h
    obtain ⟨he, hlow⟩ := agreeOn_append.mp hlower
    rw [evaluate, evaluate, ih he, ihlow hlow, ihhigh hhigh]
  | isNull negated e ih => rw [evaluate, evaluate, ih h]

theorem holds_congr (h : AgreeOn e.fields row other) : e.holds row = e.holds other :=
  congrArg Value.truth (evaluate_congr (agreeOn_fields.mp h))

/-- A row that has a value in every field, a given one where there is none. -/
def completedWith (fallback : Value) (row : String → Option Value) : String → Option Value :=
  fun x => some ((row x).getD fallback)

theorem agreeOn_completedWith (fallback : Value) (h : ∀ x ∈ names, ∃ v, row x = some v) :
    AgreeOn names (completedWith fallback row) row := by
  intro x hx
  obtain ⟨v, hv⟩ := h x hx
  rw [completedWith, hv, Option.getD_some]

end Fixtures.Check.Expression

namespace Fixtures

open Check Expression

variable {s : Schema} {m : Model} {c : Model.Check} {x : String} {values : List Value}

namespace Generation.TableJob

variable {job : TableJob}

def IsComplete (job : TableJob) (values : List Value) : Prop :=
  job.table.fields.length ≤ values.length

theorem IsComplete.exists_lookup (h : job.IsComplete values) {f : Model.Field}
    (hf : job.table.field? x = some f) : ∃ v, job.lookup values x = some v := by
  obtain ⟨i, hi⟩ := Model.Table.exists_fieldIndex? hf
  obtain ⟨g, hg, -, -⟩ := Model.Table.fieldIndex?_eq_some hi
  have hlt : i < values.length := Nat.lt_of_lt_of_le (List.getElem?_eq_some_iff.mp hg).1 h
  exact ⟨values[i], by rw [lookup, hi, Option.bind_some, List.getElem?_eq_getElem hlt]⟩

theorem IsComplete.exists_lookup_of_mem_fields (h : job.IsComplete values)
    (hm : Model.ofSchema s = .ok m)
    (ht : job.table ∈ m.tables) (hc : c ∈ job.table.checks) (hx : x ∈ c.expression.fields) :
    ∃ v, job.lookup values x = some v := by
  obtain ⟨declared, hmatches⟩ := Model.exists_matches_of_ofSchema hm ht
  obtain ⟨f, hf⟩ := hmatches.checks c hc x (Text.mem_nameSet.mp hx)
  exact h.exists_lookup hf

end Generation.TableJob

namespace Generation

/-- A check gives the same on any two rows that agree on the fields that it reports. In an accepted
schema a row with a value for every field of its table has one for each of these, so that it makes
no difference what a missing field counts as. -/
theorem checks_read_reported_fields :
    (∀ (e : Expression) (row other : String → Option Value), AgreeOn e.fields row other →
      e.evaluate row = e.evaluate other ∧ e.holds row = e.holds other) ∧
    ∀ s m, Model.ofSchema s = .ok m → ∀ job : TableJob, job.table ∈ m.tables →
      ∀ values, job.IsComplete values → ∀ c ∈ job.table.checks,
        (∀ x ∈ c.expression.fields, ∃ v, job.lookup values x = some v) ∧
        ∀ fallback, c.expression.evaluate (completedWith fallback (job.lookup values)) =
            c.expression.evaluate (job.lookup values) ∧
          c.expression.holds (completedWith fallback (job.lookup values)) =
            c.expression.holds (job.lookup values) := by
  refine ⟨fun e row other h => ⟨evaluate_congr (agreeOn_fields.mp h), holds_congr h⟩, ?_⟩
  intro s m hm job ht values hcomplete c hc
  have hfound : ∀ x ∈ c.expression.fields, ∃ v, job.lookup values x = some v :=
    fun x hx => hcomplete.exists_lookup_of_mem_fields hm ht hc hx
  refine ⟨hfound, fun fallback => ?_⟩
  have hagree := agreeOn_completedWith fallback hfound
  exact ⟨evaluate_congr (agreeOn_fields.mp hagree), holds_congr hagree⟩

def rowJob (t : Model.Table) (o : Options) : TableJob :=
  ⟨t, ⟨t.name, t.fieldNames, [], [], [], 1, .random⟩, {}, o, 0⟩

/-- The check of the uses of parts compares two of the three fields. -/
theorem checks_read_reported_fields_stock : ∃ m t c, Model.ofSchema Model.stockSchema = .ok m ∧
    t ∈ m.tables ∧ c ∈ t.checks ∧ c.expression.fields = ["left", "lot"] ∧
    c.expression.holds (fun _ => some (.int 1)) =
      c.expression.holds (fun x => if x = "part" then none else some (.int 1)) ∧
    ∀ o, (∀ x ∈ c.expression.fields, ∃ v, (rowJob t o).lookup [.int 1, .int 2, .int 1] x = some v) ∧
      ∀ fallback,
        c.expression.holds (completedWith fallback ((rowJob t o).lookup [.int 1, .int 2, .int 1])) =
          c.expression.holds ((rowJob t o).lookup [.int 1, .int 2, .int 1]) := by
  have h : ((Model.ofSchema Model.stockSchema).toOption.bind fun m => m.tables.head?.bind fun t =>
      t.checks.head?.map fun c => (t.fields.length, c.expression.fields)) = some (3,
      ["left", "lot"]) := by
    decide +kernel
  simp only [Option.bind_eq_some_iff, Option.map_eq_some_iff, Prod.mk.injEq] at h
  obtain ⟨m, hm, t, ht, c, hc, hlength, hfields⟩ := h
  have hm := toOption_eq_some.mp hm
  have ht := List.mem_of_head? ht
  have hc := List.mem_of_head? hc
  have hagree : AgreeOn c.expression.fields (fun _ => some (.int 1))
      (fun x => if x = "part" then none else some (.int 1)) := by
    simp [hfields, AgreeOn]
  refine ⟨m, t, c, hm, ht, hc, hfields, (checks_read_reported_fields.1 _ _ _ hagree).2, fun o => ?_⟩
  have hcomplete : (rowJob t o).IsComplete [.int 1, .int 2, .int 1] := Nat.le_of_eq hlength
  have hreads := checks_read_reported_fields.2 _ m hm (rowJob t o) ht _ hcomplete c hc
  exact ⟨hreads.1, fun fallback => (hreads.2 fallback).2⟩

end Generation

end Fixtures
