import Fixtures.Proofs.Generation.Defaults
import Fixtures.Proofs.Generation.FirstAttempts
import Fixtures.Proofs.Generation.RowKeys

namespace Fixtures.Generation

open Fixtures.Random

variable {s : Schema} {o : Options} {m : Model} {order : List String} {t : Model.Table}
    {plan : TablePlan}

namespace TableJob

variable {job : TableJob} {row attempt i : Nat} {p : FieldPlan} {f : Model.Field}
    {current v w : Value}
  {values : List Value}

theorem givesRow_fieldValue_of_value (hforeign : p.foreignKey = none) (hnull : p.nullable = false)
    (hv : ∀ attempts, (job.request row attempt p f).value (attempts + 1) = pure (.ok v)) :
    GivesRow (job.fieldValue row attempt p f current) fun w => w = v := by
  have hleft : leftNull p = pure false := by
    unfold leftNull
    rw [hnull]
    rfl
  unfold fieldValue
  rw [hforeign, hleft]
  cases hattempts : job.options.maxAttemptsValue with
  | zero => exact givesRow_throw _
  | succ attempts =>
    have hvalue : ValueRequest.value ⟨f, p, row, job.ordinal row attempt,
      job.options.baseDate⟩ (attempts + 1) =
        pure (.ok v) := hv attempts
    simp only [hvalue]
    exact givesRow_pure rfl

/-- A field that is in no foreign key and cannot be null has the value that it is given without
drawing. -/
theorem eq_of_value (h : job.rowValues row attempt = .ok values) (hp : job.plan.fields[i]? = some p)
    (hf : job.table.fields[i]? = some f) (hforeign : p.foreignKey = none)
    (hnull : p.nullable = false)
    (hv : ∀ attempts, (job.request row attempt p f).value (attempts + 1) = pure (.ok v))
    (hw : values[i]? = some w) : w = v := by
  have hdraw : GivesRow (job.drawValues row attempt) fun values =>
      ∀ w, values[i]? = some w → w = v := by
    refine GivesRow.bind (p := fun _ => True) ((gives_true _).mono fun _ _ _ _ => trivial)
      fun foreign _ => ?_
    refine Gives.mono (givesRow_fieldValues (r := fun p f _ w => p.foreignKey = none →
      p.nullable = false →
      ∀ v, (∀ attempts, (job.request row attempt p f).value (attempts + 1) = pure (.ok v)) → w = v)
      (fun p f current => ?_) _) fun result hresult values hvalues w hw => ?_
    · intro s result t hrun w hw hforeign hnull v hv
      exact givesRow_fieldValue_of_value hforeign hnull hv s result t hrun w hw
    · obtain ⟨hlength, hall⟩ := hresult values hvalues
      have hi := (List.getElem?_eq_some_iff.mp hw).1
      obtain ⟨entry, hentry⟩ := exists_getElem?_of_length hlength.symm hw
      obtain ⟨hp', hrest⟩ := List.getElem?_zip_eq_some.mp hentry
      obtain ⟨hf', -⟩ := List.getElem?_zip_eq_some.mp hrest
      obtain rfl : entry.1 = p := Option.some.inj (hp'.symm.trans hp)
      obtain rfl : entry.2.1 = f := Option.some.inj (hf'.symm.trans hf)
      exact hall i _ _ _ w hentry hw hforeign hnull v hv
  exact hdraw.onSeed h w hw

theorem ordinal_one (hrow : row < job.plan.count) (hcount : job.plan.count ≤ maxOrdinal) :
    job.ordinal row 1 = row := by
  unfold ordinal
  omega

end TableJob

def IsKeyMember (t : Model.Table) (f : Model.Field) : Prop :=
  ∃ k ∈ t.keys, f.name ∈ k.fields

instance (t : Model.Table) (f : Model.Field) : Decidable (IsKeyMember t f) :=
  inferInstanceAs (Decidable (∃ k ∈ t.keys, _))

/-- A table without checks whose keys are single fields with values that follow from the numbers of
rows, one for each of its rows. -/
structure RowKeyed (o : Options) (t : Model.Table) (plan : TablePlan) : Prop where
  unchecked : t.checks = []
  counted : plan.count ≤ maxOrdinal
  single : ∀ k ∈ t.keys, k.fields.length = 1
  planned : ∀ entry ∈ plan.fields.zip t.fields, IsKeyMember t entry.2 → entry.1.rowKeyed = true
  keyed : ∀ entry ∈ plan.fields.zip t.fields, IsKeyMember t entry.2 → ∃ type ∈ countedTypes,
    entry.2.terminal = .primitive type ∧ ∀ n < plan.count,
      (keyedValue? type entry.2.domain entry.1.topic entry.2.name n o.baseDate).isSome = true

instance (o : Options) (t : Model.Table) (plan : TablePlan) : Decidable (RowKeyed o t plan) :=
  decidable_of_iff (_ ∧ _ ∧ _ ∧ _ ∧ _)
    ⟨fun ⟨unchecked, counted, single, planned, keyed⟩ => ⟨unchecked, counted, single, planned,
      keyed⟩, fun h => ⟨h.unchecked, h.counted, h.single, h.planned, h.keyed⟩⟩

/-- A key member of a table by its position, with its plan and its type. -/
structure KeyMember (t : Model.Table) (plan : TablePlan) (i : Nat) (type : Primitive)
  (p : FieldPlan)
    (f : Model.Field) : Prop where
  plan : plan.fields[i]? = some p
  field : t.fields[i]? = some f
  member : IsKeyMember t f
  type : f.terminal = .primitive type

theorem KeyMember.nullable {i : Nat} {type : Primitive} {p : FieldPlan} {f : Model.Field}
    (h : KeyMember t plan i type p f) (hplan : TablePlan.ofTable o t = .ok plan) :
    p.nullable = false := by
  obtain ⟨k, hk, hname⟩ := h.member
  have hany : (t.keys.any fun k => k.fields.contains f.name) = true :=
    List.any_eq_true.mpr ⟨k, hk, List.contains_iff_mem.mpr hname⟩
  rw [((isOf_of_ofTable hplan).fields i f p h.field h.plan).nullable, hany]
  simp

section Members

variable {i n : Nat} {type : Primitive} {p : FieldPlan} {f : Model.Field}
  (hplan : TablePlan.ofTable o t = .ok plan) (hkeys : RowKeyed o t plan)
include hplan hkeys

/-- A key member has a key of a counted type for the number of each row, and takes it from nowhere
else. -/
theorem KeyMember.exists_key (h : KeyMember t plan i type p f) (hn : n < plan.count) :
    type ∈ countedTypes ∧ p.foreignKey = none ∧ p.nullable = false ∧ p.rowKeyed = true ∧
      ∃ v, keyedValue? type f.domain p.topic f.name n o.baseDate = some v := by
  have hmem : (p, f) ∈ plan.fields.zip t.fields :=
    List.mem_of_getElem? (List.getElem?_zip_eq_some.mpr ⟨h.plan, h.field⟩)
  have hrow := hkeys.planned _ hmem h.member
  obtain ⟨type', hcounted, htype, hkeyed⟩ := hkeys.keyed _ hmem h.member
  obtain rfl : type = type' := Terminal.primitive.inj (h.type.symm.trans htype)
  have hforeign := ((rowKeyed_iff hplan hmem).mp hrow).2.1
  exact ⟨hcounted, hforeign, h.nullable hplan, hrow, Option.isSome_iff_exists.mp (hkeyed n hn)⟩

theorem exists_keyMember {k : KeyPlan} (hk : k ∈ plan.keys) :
    ∃ i type p f, k.fields = [i] ∧ KeyMember t plan i type p f := by
  obtain ⟨key, hkey, hof, -⟩ := exists_key_of_ofTable hplan hk
  obtain ⟨i, hi⟩ := List.length_eq_one_iff.mp
    ((length_of_mapM hof.fields).trans (hkeys.single key hkey))
  obtain ⟨x, hx, hindex⟩ := getElem?_of_positions (j := 0) hof.fields (by rw [hi]; rfl)
  obtain ⟨f, hf, rfl, -⟩ := Model.Table.fieldIndex?_eq_some hindex
  obtain ⟨p, hp⟩ := exists_getElem?_of_length (isOf_of_ofTable hplan).length hf
  have hmember : IsKeyMember t f := ⟨key, hkey, List.mem_of_getElem? hx⟩
  have hmem : (p, f) ∈ plan.fields.zip t.fields :=
    List.mem_of_getElem? (List.getElem?_zip_eq_some.mpr ⟨hp, hf⟩)
  obtain ⟨type, -, htype, -⟩ := hkeys.keyed _ hmem hmember
  exact ⟨i, type, p, f, hi, hp, hf, hmember, htype⟩

end Members

section Compiled

variable {i : Nat} {type : Primitive} {p : FieldPlan} {f : Model.Field}
  (hcompile : s.compile = .ok (m, order)) (ht : t ∈ m.tables)
include hcompile ht

theorem build_of_mem_fields (hf : f ∈ t.fields) :
    Domain.build f.terminal f.constraints = .ok f.domain := by
  obtain ⟨declared, hmatches⟩ :=
    Model.exists_matches_of_ofSchema (ofSchema_and_order_of_compile hcompile).1 ht
  obtain ⟨g, -, hg⟩ := hmatches.exists_field hf
  exact hg.domain

theorem KeyMember.build (h : KeyMember t plan i type p f) :
    Domain.build (.primitive type) f.constraints = .ok f.domain := by
  rw [← h.type]
  exact build_of_mem_fields hcompile ht (List.mem_of_getElem? h.field)

variable (hplan : TablePlan.ofTable o t = .ok plan) (hkeys : RowKeyed o t plan)
  {references : References} {seed : UInt64} {row : Nat} {values : List Value}
include hplan hkeys

theorem KeyMember.exists_value (h : KeyMember t plan i type p f) (hrow : row < plan.count)
    (hvalues : (TableJob.mk t plan references o seed).rowValues row 1 = .ok values) :
    ∃ v, values[i]? = some v ∧ keyedValue? type f.domain p.topic f.name row o.baseDate =
      some v := by
  obtain ⟨-, hforeign, hnull, hkeyed, v, hv⟩ := h.exists_key hplan hkeys hrow
  obtain ⟨picks, hattempted⟩ := TableJob.attempted_of_rowValues hvalues
  obtain ⟨w, hw⟩ := exists_getElem?_of_length (hattempted.length_values (isOf_of_ofTable hplan))
    h.field
  have hterminal := (Domain.isOf_of_build (h.build hcompile ht)).terminal
  have hderived : ((TableJob.mk t plan references o seed).request row 1 p f).derivedValue? =
      some v := by
    unfold ValueRequest.derivedValue? TableJob.request
    rw [TableJob.ordinal_one hrow hkeys.counted]
    simp only [hkeyed, hterminal]
    exact hv
  rw [TableJob.eq_of_value hvalues h.plan h.field hforeign hnull
    (ValueRequest.value_of_derivedValue? hderived) hw] at hw
  exact ⟨v, hw, hv⟩

theorem firstsApart : (TableJob.mk t plan references o seed).FirstsApart := by
  refine ⟨hkeys.unchecked, fun row later values values' hlt hcount hvalues hvalues' hshare => ?_⟩
  obtain ⟨k, hk, text, htext, htext'⟩ := hshare
  obtain ⟨i, type, p, f, hi, hmember⟩ := exists_keyMember hplan hkeys hk
  have hrow : row < plan.count := Nat.lt_trans hlt hcount
  obtain ⟨v, hv, hkey⟩ := hmember.exists_value hcompile ht hplan hkeys hrow hvalues
  obtain ⟨w, hw, hkey'⟩ := hmember.exists_value hcompile ht hplan hkeys hcount hvalues'
  obtain ⟨hcounted, -⟩ := hmember.exists_key hplan hkeys hrow
  have hnotNull : ∀ {v : Value} {n : Nat}, keyedValue? type f.domain p.topic f.name n o.baseDate =
    some v →
      v ≠ .null := by
    rintro v n hkey rfl
    cases kind?_of_keyedValue? hkey
  rw [hi, KeyColumn.keyOf?_singleton hv (hnotNull hkey)] at htext
  rw [hi, KeyColumn.keyOf?_singleton hw (hnotNull hkey')] at htext'
  have heq : v.key = w.key := Option.some.inj (htext.trans htext'.symm)
  have hends := Domain.endsMinute_of_build (hmember.build hcompile ht)
  have hbound := hkeys.counted
  have hsame := ordinal_eq_of_key_eq hcounted hends (by omega)
    (Nat.lt_of_lt_of_le hcount hbound) hkey hkey' heq
  omega

end Compiled

open Binary64 Domain

/-- Rows whose key members have the keys that follow from the numbers of the rows. Integers within
ranges count up from the integer nearest to where the ranges begin, which is that integer if it has
at most 53 bits. -/
def HoldRowKeys (o : Options) (t : Model.Table) (plan : TablePlan) (rows : List SampledRow) :
    Prop :=
  ∀ (r : Nat) row, rows[r]? = some row → ∀ i type p f, KeyMember t plan i type p f →
    ∃ v, row.values[i]? = some v ∧ keyedValue? type f.domain p.topic f.name r o.baseDate = some v ∧
      ∀ lo, type = .integer → AreIntRanges f.constraints → BeginsAt f.constraints lo →
        v = .int (clampInt64 (nearest lo) + r) ∧ (lo.natAbs ≤ twoTo 53 → v = .int (lo + r))

/-- A table whose keys are single fields that follow from the numbers of rows never makes a second
attempt at a row for its keys, whatever else is in it, and its rows hold these keys in order. For
integers within ranges that begin at one of at most 53 bits there are such keys up to the end of the
ranges. -/
theorem row_keys_need_no_retry (hcompile : s.compile = .ok (m, order)) (ht : t ∈ m.tables)
    (hplan : TablePlan.ofTable o t = .ok plan) (hkeys : RowKeyed o t plan) (references : References)
    (seed : UInt64) :
    (TableJob.mk t plan references o seed).NeedsNoRetry ∧
    (∀ rows report, (TableJob.mk t plan references o seed).generate.2 = .ok (rows, report) →
      HoldRowKeys o t plan rows) ∧
    ∀ i p f lo n, KeyMember t plan i .integer p f → AreIntRanges f.constraints →
      BeginsAt f.constraints lo →
      lo.natAbs ≤ twoTo 53 → StaysWithin f.constraints lo n →
        keyedValue? .integer f.domain p.topic f.name n o.baseDate = some (.int (lo + n)) := by
  have hnoRetry : (TableJob.mk t plan references o seed).NeedsNoRetry :=
    (firstsApart hcompile ht hplan hkeys).needsNoRetry
  refine ⟨hnoRetry, fun rows report hgenerate r row hrow i type p f hmember => ?_,
    fun i p f lo n hmember hranges hlo hsmall hn => ?_⟩
  · obtain ⟨-, hcount, hfirsts⟩ := hnoRetry.finished rows report hgenerate
    have hr : r < plan.count := hcount ▸ (List.getElem?_eq_some_iff.mp hrow).1
    obtain ⟨v, hv, hkey⟩ :=
      hmember.exists_value hcompile ht hplan hkeys hr (hfirsts r row hrow).values
    refine ⟨v, hv, hkey, fun lo htype hranges hlo => ?_⟩
    subst htype
    have heq := eq_int_of_keyedValue? (hmember.build hcompile ht) hranges hlo hkey
    exact ⟨heq, fun hsmall => by rw [heq, clampInt64_nearest hranges hlo hsmall]⟩
  · exact keyedValue?_of_beginsAt (hmember.build hcompile ht) hranges hlo hsmall hn

/-- Tickets that are told apart by a number in a range, the day and the address of the holder. -/
def ticketSchema (low high : Int) (count : Nat) : Schema :=
  { name := "tickets"
    tables := [{
      name := "ticket"
      fields := [
        { name := "id"
          dataType := .primitive .integer
          constraints := [.primaryKey none [], .range (some (.int low)) (some (.int high))] },
        { name := "email", dataType := .primitive .string, constraints := [.unique none []] },
        { name := "day", dataType := .primitive .date, constraints := [.unique none []] },
        { name := "price", dataType := .primitive .decimal }]
      directive := some { count := some count } }] }

/-- Eight tickets have all numbers of their range, one after the other. -/
theorem row_keys_need_no_retry_tickets : ∃ m order t plan,
    (ticketSchema (-3) 4 8).compile = .ok (m, order) ∧ t ∈ m.tables ∧
      TablePlan.ofTable {} t = .ok plan ∧
      RowKeyed {} t plan ∧ ∀ references seed rows report,
        (TableJob.mk t plan references {} seed).generate.2 = .ok (rows, report) →
          report.retries = 0 ∧ rows.map (fun row => row.values[0]?) =
            (List.range 8).map fun n => some (.int (-3 + n)) := by
  have hcompile : (ticketSchema (-3) 4 8).compile.toOption.isSome := by
    decide +kernel
  have hkeys : ∀ compiled ∈ (ticketSchema (-3) 4 8).compile.toOption, ∃ t ∈ compiled.1.tables,
      ∃ plan ∈ (TablePlan.ofTable {} t).toOption, RowKeyed {} t plan ∧ plan.count = 8 ∧
        plan.fields[0]?.isSome ∧ ∃ f ∈ t.fields[0]?, IsKeyMember t f ∧
        f.terminal = .primitive .integer ∧
          f.constraints = [.range (some (.int (-3))) (some (.int 4))] := by
    decide +kernel
  obtain ⟨⟨m, order⟩, hsome⟩ := Option.isSome_iff_exists.mp hcompile
  obtain ⟨t, ht, plan, hplan, hkeyed, hcount, hp, f, hf, hmember, htype, hconstraints⟩ :=
    hkeys _ hsome
  have hok := toOption_eq_some.mp hsome
  have hplan := toOption_eq_some.mp hplan
  obtain ⟨p, hp⟩ := Option.isSome_iff_exists.mp hp
  refine ⟨m, order, t, plan, hok, ht, hplan, hkeyed,
    fun references seed rows report hgenerate => ?_⟩
  obtain ⟨hnoRetry, hholds, -⟩ := row_keys_need_no_retry hok ht hplan hkeyed references seed
  obtain ⟨hretries, hlength, -⟩ := hnoRetry.finished rows report hgenerate
  have hranges : AreIntRanges f.constraints := by
    rw [hconstraints]
    intro c hc _
    rw [List.mem_singleton.mp hc]
    exact ⟨_, _, rfl, .inr (.inr ⟨_, rfl, by decide⟩), .inr (.inr ⟨_, rfl, by decide⟩)⟩
  have hlow : BeginsAt f.constraints (-3) := by
    rw [hconstraints]
    refine ⟨⟨_, List.mem_singleton_self _⟩, fun low high hc a ha => ?_⟩
    cases List.mem_singleton.mp hc
    cases ha
    exact Int.le_refl _
  refine ⟨hretries, List.ext_getElem (by simp [hlength, hcount]) fun r hr _ => ?_⟩
  have hr : r < rows.length := by simpa using hr
  obtain ⟨v, hv, -, hcounted⟩ :=
    hholds rows report hgenerate r _ (List.getElem?_eq_getElem hr) 0 .integer p f ⟨hp, hf, hmember,
      htype⟩
  obtain ⟨-, hexact⟩ := hcounted (-3) rfl hranges hlow
  simp [hv, hexact (by decide)]

/-- Two tickets whose numbers should be 9007199254740993 and the next one: the range begins at an
integer that is held as the one before it. -/
theorem row_keys_begin_below_range :
    ∃ out, Generation.run (ticketSchema 9007199254740993 9007199254740994 2) {} 1 = .ok out ∧
      (out.tables.map fun entry => entry.2.map fun r => (r.get? "id").map Value.key) =
        [[some "9007199254740992", some "9007199254740993"]] := by
  have h :
      (Generation.run (ticketSchema 9007199254740993 9007199254740994 2) {} 1).toOption.map
          (fun out =>
            out.tables.map fun entry => entry.2.map fun r => (r.get? "id").map Value.key) =
        some [[some "9007199254740992", some "9007199254740993"]] := by
    decide +kernel
  obtain ⟨out, hout, hkeys⟩ := Option.map_eq_some_iff.mp h
  exact ⟨out, toOption_eq_some.mp hout, hkeys⟩

end Fixtures.Generation
