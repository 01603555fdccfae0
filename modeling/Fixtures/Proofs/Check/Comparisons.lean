import Fixtures.Proofs.Check.Expansions
import Fixtures.Proofs.Numeric.Integers
import Fixtures.Proofs.Value.Kind

namespace Fixtures.Check

open Binary64

variable {row : String → Option Value} {e left right low high : Expression}
    {items : List Expression}
  {l m n h : Int} {ns : List Int} {negated : Bool}

def Comparison.onInts : Comparison → Int → Int → Bool
  | eq, m, n => m = n
  | ne, m, n => m ≠ n
  | lt, m, n => m < n
  | le, m, n => m ≤ n
  | gt, m, n => n < m
  | ge, m, n => n ≤ m

theorem Comparison.accepts_compare (op : Comparison) (m n : Int) :
    op.accepts (Ord.compare m n) = op.onInts m n := by
  rcases Int.lt_trichotomy m n with hlt | rfl | hgt
  · rw [Int.compare_eq_lt.mpr hlt]
    cases op <;> simp [accepts, onInts] <;> omega
  · rw [Int.compare_eq_eq.mpr rfl]
    cases op <;> simp [accepts, onInts]
  · rw [Int.compare_eq_gt.mpr hgt]
    cases op <;> simp [accepts, onInts] <;> omega

structure Expression.IsInt (row : String → Option Value) (e : Expression) (n : Int) : Prop where
  value : e.evaluate row = .int n
  fits : isInt64 n = true

theorem compare?_int (hm : isInt64 m = true) (hn : isInt64 n = true) :
    Value.compare? (.int m) (.int n) = some (compare (nearest m) (nearest n)) :=
  compare?_ofInt (natAbs_le hm) (natAbs_le hn)

theorem truth_int (op : Comparison) (hm : isInt64 m = true) (hn : isInt64 n = true) :
    op.truth (.int m) (.int n) = some (op.onInts (nearest m) (nearest n)) := by
  unfold Comparison.truth
  rw [compare?_int hm hn, Option.any_some, op.accepts_compare]
  rfl

theorem evaluate_compare (op : Comparison) (hleft : left.IsInt row m) (hright : right.IsInt row n) :
    (Expression.compare op left right).evaluate row =
      .bool (op.onInts (nearest m) (nearest n)) := by
  rw [Expression.evaluate, hleft.value, hright.value, truth_int op hleft.fits hright.fits]
  rfl

theorem evaluate_between (he : e.IsInt row n) (hlow : low.IsInt row l) (hhigh : high.IsInt row h) :
    (Expression.between negated e low high).evaluate row =
      .bool (decide (nearest l ≤ nearest n ∧ nearest n ≤ nearest h) != negated) := by
  rw [Expression.evaluate, he.value, hlow.value, hhigh.value]
  simp only [truth_int _ he.fits hlow.fits, truth_int _ he.fits hhigh.fits, Comparison.onInts]
  by_cases hle : nearest l ≤ nearest n <;> by_cases hge : nearest n ≤ nearest h <;>
    simp [hle, hge, bothHold, turned, Value.ofTruth]

theorem memberTruth_ints (hn : isInt64 n = true) (hns : ∀ k ∈ ns, isInt64 k = true) :
    memberTruth (.int n) (ns.map .int) = some (ns.any fun k => nearest n = nearest k) := by
  induction ns with
  | nil => rfl
  | cons k ns ih =>
    obtain ⟨hk, hrest⟩ := List.forall_mem_cons.mp hns
    rw [List.map_cons, memberTruth_cons, truth_int .eq hn hk, ih hrest, eitherHolds_some,
      List.any_cons, Comparison.onInts]

theorem evaluate_oneOf (he : e.IsInt row n)
    (hitems : Expression.evaluateAll row items = ns.map .int) (hns : ∀ k ∈ ns, isInt64 k = true) :
    (Expression.oneOf negated e items).evaluate row =
      .bool ((ns.any fun k => nearest n = nearest k) != negated) := by
  rw [Expression.evaluate]
  simp only [he.value, hitems, memberTruth_ints he.fits hns]
  rfl

/-- Integers are ordered as they are, except that close ones of more than 53 bits can count as
equal. -/
theorem compare_nearest_or_close (hm : isInt64 m = true) (hn : isInt64 n = true) :
    compare (nearest m) (nearest n) = compare m n ∨
      (compare (nearest m) (nearest n) = .eq ∧ twoTo 53 ≤ m.natAbs ∧ twoTo 53 ≤ n.natAbs ∧
        (m - n).natAbs ≤ 1024) := by
  rw [compare_nearest]
  split
  · next heq =>
    rcases eq_or_close_of_nearest_eq hm hn heq with rfl | hclose
    · exact .inl (Int.compare_eq_eq.mpr rfl).symm
    · exact .inr ⟨rfl, hclose⟩
  · exact .inl rfl

/-- What a check says of 64-bit integers is what it says of the nearest numbers with 53 significant
bits. -/
theorem decides_as_nearest (hleft : left.IsInt row m) (hright : right.IsInt row n)
    (hlow : low.IsInt row l)
    (hhigh : high.IsInt row h) (hitems : Expression.evaluateAll row items = ns.map .int)
    (hns : ∀ k ∈ ns, isInt64 k = true) :
    Value.compare? (.int m) (.int n) = some (compare (nearest m) (nearest n)) ∧
    (∀ op : Comparison,
      (Expression.compare op left right).evaluate row = .bool (op.onInts (nearest m) (nearest n))) ∧
    (∀ negated, (Expression.oneOf negated left items).evaluate row =
      .bool ((ns.any fun k => nearest m = nearest k) != negated)) ∧
    (∀ negated, (Expression.between negated left low high).evaluate row =
      .bool (decide (nearest l ≤ nearest m ∧ nearest m ≤ nearest h) != negated)) ∧
    ∀ a b : Int, isInt64 a = true → isInt64 b = true →
      compare (nearest a) (nearest b) = compare a b ∨
        (compare (nearest a) (nearest b) = .eq ∧ twoTo 53 ≤ a.natAbs ∧ twoTo 53 ≤ b.natAbs ∧
          (a - b).natAbs ≤ 1024) :=
  ⟨compare?_int hleft.fits hright.fits, fun op => evaluate_compare op hleft hright,
    fun _ => evaluate_oneOf hleft hitems hns, fun _ => evaluate_between hleft hlow hhigh,
    fun _ _ => compare_nearest_or_close⟩

/-- A row whose field is the least integer that its successor is not told apart from. -/
def crowdedRow : String → Option Value :=
  fun _ => some (.int 9007199254740992)

def successor : Expression :=
  .arithmetic .add (.field "a") (.literal (.int 1))

theorem decides_as_nearest_crowded :
    (successor.IsInt crowdedRow 9007199254740993 ∧
      (Expression.field "a").IsInt crowdedRow 9007199254740992 ∧
      Expression.evaluateAll crowdedRow [.literal (.int 9007199254740994)] =
        [9007199254740994].map .int) ∧
    (Expression.compare .eq successor (.field "a")).evaluate crowdedRow = .bool true ∧
    (Expression.oneOf false successor [.literal (.int 9007199254740994)]).evaluate crowdedRow =
      .bool false ∧
    (Expression.between true successor (.field "a") (.field "a")).evaluate crowdedRow =
      .bool false := by
  have hsuccessor : successor.IsInt crowdedRow 9007199254740993 := ⟨rfl, by decide⟩
  have hfield : (Expression.field "a").IsInt crowdedRow 9007199254740992 := ⟨rfl, by decide⟩
  have hitems : Expression.evaluateAll crowdedRow [.literal (.int 9007199254740994)] =
      [9007199254740994].map .int := rfl
  obtain ⟨_, hcompare, honeOf, hbetween, _⟩ :=
    decides_as_nearest hsuccessor hfield hfield hfield hitems (by decide)
  refine ⟨⟨hsuccessor, hfield, hitems⟩, (hcompare .eq).trans ?_, (honeOf false).trans ?_,
    (hbetween true).trans ?_⟩
  · exact congrArg Value.bool (by decide +kernel)
  · exact congrArg Value.bool (by decide +kernel)
  · exact congrArg Value.bool (by decide +kernel)

/-- Where the least of these integers is in a field, adding one gives none that is greater. -/
theorem successor_is_no_greater :
    Value.compare? (.int 9007199254740992) (.int 9007199254740993) ≠
        some (compare 9007199254740992 9007199254740993) ∧
      (Expression.compare .gt successor (.field "a")).holds crowdedRow ≠ some true := by
  decide +kernel

end Fixtures.Check

namespace Fixtures

namespace Value

variable {v w : Value}

def isOrdered : Value → Bool
  | bool _ | int _ | decimal _ | text _ | uuid _ | date _ | timestamp _ => true
  | null | binary _ | json _ | array _ => false

def IsRegular : Value → Prop
  | int n => Binary64.isInt64 n = true
  | decimal x => x.isNaN = false
  | _ => True

theorem compareText_self (s : String) : compareText s s = .eq := by
  rw [compareText, if_neg (String.lt_irrefl s), if_pos rfl]

theorem compare_timestamp_self (t : Timestamp) : t.compare t = .eq := by
  rw [Timestamp.compare, Int.compare_eq_eq.mpr rfl, Nat.compare_eq_eq.mpr rfl]
  rfl

theorem exists_compare? (hkind : v.kind? = w.kind?) (hordered : v.isOrdered = true)
    (hv : v.IsRegular) (hw : w.IsRegular) : ∃ o, v.compare? w = some o := by
  cases v with
  | null | binary bytes | json j | array items => cases hordered
  | int m =>
    cases w with
    | int n => exact ⟨_, Check.compare?_int hv hw⟩
    | _ => cases hkind
  | decimal x =>
    cases w with
    | decimal y => exact Binary64.exists_compare? hv hw
    | _ => cases hkind
  | bool b | text s | uuid s | date d | timestamp t =>
    cases w <;>
      first | exact ⟨_, rfl⟩ | cases hkind

theorem compare?_self (hordered : v.isOrdered = true) (hv : v.IsRegular) :
    v.compare? v = some .eq := by
  cases v with
  | null | binary bytes | json j | array items => cases hordered
  | bool b => cases b <;> rfl
  | int n => rw [Check.compare?_int hv hv, Int.compare_eq_eq.mpr rfl]
  | decimal x => exact Binary64.compare?_self hv
  | text s | uuid s => exact congrArg some (compareText_self s)
  | date d => exact congrArg some (compare_timestamp_self (.midnight d))
  | timestamp t => exact congrArg some (compare_timestamp_self t)

theorem compare?_eq_none (hordered : v.isOrdered = false) (w : Value) : v.compare? w = none := by
  cases v with
  | bool b | int n | decimal x | text s | uuid s | date d | timestamp t => cases hordered
  | null | binary bytes | json j | array items => cases w <;> rfl

end Value

namespace Check

open Value

variable {row : String → Option Value} {left right : Expression} {v w : Value}

theorem truth_of_ne_null (op : Comparison) (hv : v ≠ .null) (hw : w ≠ .null) :
    op.truth v w = some ((v.compare? w).any op.accepts) := by
  have hisNull : ∀ {u : Value}, u ≠ .null → u.isNull = false := by
    intro u hu
    cases u <;> first | rfl | exact absurd rfl hu
  rw [Comparison.truth, hisNull hv, hisNull hw]
  rfl

namespace Expression

/-- What an equation and the three spellings of its opposite say of two operands. -/
structure Verdict (row : String → Option Value) (left right : Expression) (equal unequal : Bool) :
    Prop where
  eq : (compare .eq left right).evaluate row = .bool equal
  ne : (compare .ne left right).evaluate row = .bool unequal
  not_eq : (not (compare .eq left right)).evaluate row = .bool !equal
  not_in : (oneOf true left [right]).evaluate row = .bool !equal

theorem verdict_of_ne_null (hleft : left.evaluate row = v) (hright : right.evaluate row = w)
    (hv : v ≠ .null) (hw : w ≠ .null) :
    Verdict row left right ((v.compare? w).any Comparison.eq.accepts)
      ((v.compare? w).any Comparison.ne.accepts) := by
  have hcompare : ∀ op : Comparison,
      (compare op left right).evaluate row = .bool ((v.compare? w).any op.accepts) := by
    intro op
    rw [evaluate, hleft, hright, truth_of_ne_null op hv hw]
    rfl
  refine ⟨hcompare .eq, hcompare .ne, ?_, ?_⟩
  · rw [evaluate_not, hcompare]
    rfl
  · rw [evaluate_oneOf_cons, evaluateAll, evaluateAll, hleft, hright, memberTruth_cons, memberTruth,
      eitherHolds_false, truth_of_ne_null .eq hv hw, ← negated_ofTruth]
    rfl

/-- Equality and inequality of values of one kind are opposites exactly if the kind has an order. -/
theorem opposites_iff_ordered (hleft : left.evaluate row = v) (hright : right.evaluate row = w)
    (hkind : v.kind? = w.kind?) (hv : v ≠ .null) (hw : w ≠ .null) (hvregular : v.IsRegular)
    (hwregular : w.IsRegular) :
    ∃ equal unequal, Verdict row left right equal unequal ∧
      (unequal = !equal ↔ v.isOrdered = true) ∧
      (v.isOrdered = true → v = w → equal = true) ∧
      (v.isOrdered = false → equal = false ∧ unequal = false) := by
  refine ⟨_, _, verdict_of_ne_null hleft hright hv hw, ?_⟩
  cases hordered : v.isOrdered with
  | true =>
    obtain ⟨o, ho⟩ := exists_compare? hkind hordered hvregular hwregular
    refine ⟨iff_of_true ?_ rfl, fun _ heq => ?_, nofun⟩
    · rw [ho]
      cases o <;> rfl
    · rw [← heq, compare?_self hordered hvregular]
      rfl
  | false =>
    rw [compare?_eq_none hordered]
    exact ⟨iff_of_false nofun nofun, nofun, fun _ => ⟨rfl, rfl⟩⟩

def addresses : String → Option Value
  | "home" => some (.text "Lyon")
  | "work" => some (.text "Oslo")
  | _ => none

theorem opposites_iff_ordered_addresses :
    ((field "home").evaluate addresses = .text "Lyon" ∧
        (field "work").evaluate addresses = .text "Oslo") ∧
      (Value.text "Lyon").isOrdered = true ∧
      Verdict addresses (field "home") (field "work") false true := by
  have hhome : (field "home").evaluate addresses = .text "Lyon" := rfl
  have hwork : (field "work").evaluate addresses = .text "Oslo" := rfl
  have hequal : (compare .eq (field "home") (field "work")).evaluate addresses = .bool false := rfl
  obtain ⟨equal, unequal, hverdict, hopposite, -, -⟩ :=
    opposites_iff_ordered hhome hwork rfl nofun nofun trivial trivial
  obtain rfl : equal = false := Value.bool.inj (hverdict.eq.symm.trans hequal)
  obtain rfl : unequal = true := hopposite.mpr rfl
  exact ⟨⟨hhome, hwork⟩, rfl, hverdict⟩

def unordered : String → Option Value
  | "bytes" => some (.binary [255])
  | "document" => some (.json (.bool true))
  | "list" => some (.array [.bool true])
  | _ => none

def withItself (op : Comparison) (name : String) : Expression :=
  .compare op (.field name) (.field name)

/-- Without an order no value equals itself, and the spellings of its inequality disagree. -/
theorem unordered_values_equal_nothing :
    ((withItself .eq "bytes").holds unordered ≠ some true ∧
      (withItself .ne "bytes").holds unordered ≠ (not (withItself .eq "bytes")).holds unordered) ∧
    ((withItself .eq "document").holds unordered ≠ some true ∧
      (withItself .ne "document").holds unordered ≠
        (not (withItself .eq "document")).holds unordered) ∧
    (withItself .eq "list").holds unordered ≠ some true ∧
      (withItself .ne "list").holds unordered ≠ (not (withItself .eq "list")).holds unordered := by
  decide

end Expression

end Check

end Fixtures
