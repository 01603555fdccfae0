import Fixtures.Proofs.Schema.Documents
import Fixtures.Schema.Document

namespace Fixtures.Document

open Contract

variable {d : Json} {s : Schema}

theorem isOk_validate : (validate d).isOk = true ↔ violations d = [] := by
  simp [validate, Diagnostics.isOk]

theorem load_of_violations (h : violations d ≠ []) :
    load d = .error (.invalidDocument (validate d)) :=
  if_neg (mt isOk_validate.mp h)

theorem load_of_valid (h : violations d = []) :
    load d = match Schema.decode? d with
      | some s => .ok s
      | none => .error .unreadable :=
  if_pos (isOk_validate.mpr h)

theorem load_eq_ok : load d = .ok s ↔ violations d = [] ∧ Schema.decode? d = some s := by
  by_cases h : violations d = []
  · rw [load_of_valid h]
    cases Schema.decode? d <;> simp [h]
  · simp [load_of_violations h, h]

theorem load_eq_unreadable :
    load d = .error .unreadable ↔ violations d = [] ∧ Schema.decode? d = none := by
  by_cases h : violations d = []
  · rw [load_of_valid h]
    cases Schema.decode? d <;> simp [h]
  · simp [load_of_violations h, h]

/-- Of a document without violations just the sizes of numbers are left to be checked. -/
theorem isSome_decode?_iff (h : violations d = []) : (Schema.decode? d).isSome = true ↔
    schemaRecord.meets NumberFormat.bySize d = true :=
  describes_schema.accepts d ((violations_eq_nil schemaRecord [] d).mp h)

theorem exists_load_iff : (∃ s, load d = .ok s) ↔
    violations d = [] ∧ schemaRecord.meets NumberFormat.bySize d = true := by
  simp only [load_eq_ok, exists_and_left]
  refine and_congr_right fun h => ?_
  rw [← isSome_decode?_iff h, Option.isSome_iff_exists]

theorem load_unreadable_iff : load d = .error .unreadable ↔
    violations d = [] ∧ schemaRecord.meets NumberFormat.bySize d = false := by
  rw [load_eq_unreadable]
  refine and_congr_right fun h => ?_
  rw [← Bool.not_eq_true, ← isSome_decode?_iff h, Option.not_isSome_iff_eq_none]

theorem parse_unreadable_iff {text : String} : parse text = .error .unreadable ↔
    Json.parse? text = none ∨ ∃ d, Json.parse? text = some d ∧ load d = .error .unreadable := by
  unfold parse
  cases Json.parse? text <;> simp

/-- A valid document is loaded exactly if all its numbers keep the sizes that the contract notes. -/
theorem loads_iff_keeps_sizes (d : Json) (text : String) :
    ((∃ s, load d = .ok s) ↔
        violations d = [] ∧ schemaRecord.meets NumberFormat.bySize d = true) ∧
      (parse text = .error .unreadable ↔
        Json.parse? text = none ∨ ∃ d, Json.parse? text = some d ∧ violations d = [] ∧
          schemaRecord.meets NumberFormat.bySize d = false) := by
  refine ⟨exists_load_iff, ?_⟩
  simp only [parse_unreadable_iff, load_unreadable_iff]

/-- A document with the line of a location as a number with a fraction, which is zero. -/
def fractionalLine : Json :=
  .object [("location", .object [("column", .int 1), ("line", .float 1.0)]), ("name", .string "s")]

theorem fractional_line_is_unreadable : fractionalLine.isValue = true ∧
    violations fractionalLine = [] ∧ Schema.decode? fractionalLine = none ∧
    load fractionalLine = .error .unreadable := by
  have hvalid : violations fractionalLine = [] := List.isEmpty_iff.mp (by decide +kernel)
  have hnone : Schema.decode? fractionalLine = none :=
    Option.isNone_iff_eq_none.mp (by decide +kernel)
  exact ⟨by decide +kernel, hvalid, hnone, load_eq_unreadable.mpr ⟨hvalid, hnone⟩⟩

/-- What is loaded is loaded again from the document that is written of it, with the members of its
objects in order as in all values that are read. -/
theorem reloads (hvalue : d.isValue = true) (hvalid : violations d = [])
    (hs : Schema.decode? d = some s) :
    violations s.encode.inOrder = [] ∧ Schema.decode? s.encode.inOrder = some s := by
  have hmeets := (violations_eq_nil schemaRecord [] d).mp hvalid
  obtain ⟨hmet, hdecode, -⟩ := describes_schema.returns d s hvalue hmeets hs
  exact ⟨(violations_eq_nil schemaRecord [] _).mpr hmet, hdecode⟩

/-- A document with an integer that is read as a decimal and with members that are left out. -/
def stock : Json :=
  .object [("name", .string "stock"),
    ("tables", .array [.object [
      ("constraints", .array [
        .object [("distribution", .string "zipf"), ("fields", .array [.string "shelf"]),
          ("kind", .string "foreign_key"), ("target_fields", .array [.string "id"]),
          ("target_table", .string "shelves")]]),
      ("directive", .object [("count", .int 3),
        ("options", .object [("lengths", .array [.float 0.5, .null])]),
        ("overrides", .object [("shelf", .object [("strategy", .string "random")])])]),
      ("fields", .array [.object [
        ("constraints", .array [
          .object [("kind", .string "enum"),
            ("values", .array [.null, .bool true, .int 18446744073709551615, .string "a"])],
          .object [("kind", .string "range"), ("max", .null), ("min", .float 2.5)]]),
        ("data_type", .object [("item", .string "integer"), ("kind", .string "array"),
          ("length", .int 2)]),
        ("modifiers", .object [("default", .int 0)]), ("name", .string "shelf")]]),
      ("name", .string "goods")]])]

theorem reloads_stock : stock.isValue = true ∧ violations stock = [] ∧
    ∃ s, Schema.decode? stock = some s ∧
      violations s.encode.inOrder = [] ∧ Schema.decode? s.encode.inOrder = some s := by
  have hvalue : stock.isValue = true := by decide +kernel
  have hvalid : violations stock = [] := List.isEmpty_iff.mp (by decide +kernel)
  have hsome : (Schema.decode? stock).isSome = true := by decide +kernel
  obtain ⟨s, hs⟩ := Option.isSome_iff_exists.mp hsome
  exact ⟨hvalue, hvalid, s, hs, reloads hvalue hvalid hs⟩

end Fixtures.Document
