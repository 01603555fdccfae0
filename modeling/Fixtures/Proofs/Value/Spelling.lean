import Fixtures.Proofs.Calendar.Reading
import Fixtures.Proofs.Encoding.Bytes
import Fixtures.Value.Coerce

namespace Fixtures.Value

open Calendar

variable {p : Primitive} {v : Value} {s : String}

def spelledTypes : List Primitive :=
  [.string, .date, .timestamp, .uuid, .binary]

/-- Values of a type that have a spelling. A leap second has one at the end of a minute, and an
identifier has sixteen bytes. -/
inductive IsSpelled : Primitive → Value → Prop
  | string (s : String) : IsSpelled .string (.text s)
  | date (d : Date) : IsSpelled .date (.date d)
  | timestamp {t : Timestamp} (ht : EndsMinute t) : IsSpelled .timestamp (.timestamp t)
  | uuid {bytes : List UInt8} (hbytes : bytes.length = 16) :
    IsSpelled .uuid (.uuid (Uuid.render bytes))
  | binary (bytes : List UInt8) : IsSpelled .binary (.binary bytes)

theorem isSpelled_of_ofText? (hp : p ∈ spelledTypes) (h : ofText? p s = some v) :
    IsSpelled p v := by
  cases p <;> simp only [ofText?, Option.map_eq_some_iff, Option.some.injEq, reduceCtorEq] at h
  case string =>
    subst h
    exact .string s
  case date =>
    obtain ⟨d, -, rfl⟩ := h
    exact .date d
  case timestamp =>
    obtain ⟨t, ht, rfl⟩ := h
    exact .timestamp (endsMinute_of_parseTimestamp? ht)
  case uuid =>
    obtain ⟨bytes, hbytes, rfl⟩ := h
    exact .uuid (Uuid.length_of_parse? hbytes)
  case binary =>
    obtain ⟨bytes, -, rfl⟩ := h
    exact .binary bytes
  case json => exact absurd hp (by decide)

theorem IsSpelled.ofText?_key (h : IsSpelled p v) : ofText? p v.key = some v := by
  cases h with
  | string s => rfl
  | date d => simp only [key, ofText?, parseDate?_dateText, Option.map_some]
  | timestamp ht => simp only [key, ofText?, parseTimestamp?_timestampText ht, Option.map_some]
  | uuid hbytes => simp only [key, ofText?, Uuid.parse?_render hbytes, Option.map_some]
  | binary bytes => simp only [key, ofText?, Hex.decode?_encode, Option.map_some]

/-- The values with a spelling are those that texts stand for, and whichever spelling a value was
read from, the text that tells it apart stands for it again. -/
theorem text_stands_for_value (hp : p ∈ spelledTypes) :
    (∀ v, IsSpelled p v ↔ ∃ s, ofLiteral? p (.text s) = some v) ∧
    ∀ s v, ofLiteral? p (.text s) = some v → ofLiteral? p (.text v.key) = some v :=
  ⟨fun _ => ⟨fun h => ⟨_, h.ofText?_key⟩, fun ⟨_, h⟩ => isSpelled_of_ofText? hp h⟩,
    fun _ _ h => (isSpelled_of_ofText? hp h).ofText?_key⟩

/-- A leap second in a year of five digits, with blanks and without leading zeros. -/
theorem text_stands_for_value_leap :
    ∃ v, ofLiteral? .timestamp (.text " +12024-2-29  23:59:60") = some v ∧
    v.key = "+12024-02-29T23:59:60" ∧ ofLiteral? .timestamp (.text v.key) = some v := by
  have hparse : parseTimestamp? " +12024-2-29  23:59:60" =
      some ⟨⟨3672207, by decide, by decide⟩, 86399, true, by decide⟩ := by
    decide +kernel
  have hread : ofLiteral? .timestamp (.text " +12024-2-29  23:59:60") = some (.timestamp _) :=
    congrArg (Option.map timestamp) hparse
  exact ⟨_, hread, by decide +kernel, (text_stands_for_value (by decide)).2 _ _ hread⟩

end Fixtures.Value
