import Fixtures.Proofs.Contract.Records
import Fixtures.Proofs.Numeric.Integers
import Fixtures.Schema.Decode
import Fixtures.Schema.Encode

namespace Fixtures.Contract

open Json

theorem isFinite_ofInt {n : Int} (hvalue : (Json.int n).isValue = true)
    (hlarge : Binary64.isInt64 n = false) : (Float.ofInt n).isFinite = true := by
  have h : (9223372036854775807 : Int) < n ∧ n < twoTo 64 := by
    simp only [isValue, Bool.and_eq_true, decide_eq_true_eq] at hvalue
    simp only [Binary64.isInt64, Bool.and_eq_false_imp, decide_eq_true_eq,
      decide_eq_false_iff_not] at hlarge
    unfold Binary64.minInt64 Binary64.maxInt64 at hlarge
    omega
  obtain ⟨n, rfl⟩ := Int.eq_ofNat_of_zero_le (show 0 ≤ n by omega)
  exact Binary64.isFinite_ofNat (by omega)

theorem meets_literal {rule : NumberFormat → Json → Bool} (hrule : ∀ j, rule .double j = true)
    (j : Json) : literal.meets rule j = (Literal.decode? j).isSome := by
  cases j with
  | int n =>
    have hdecode : (Literal.decode? (.int n)).isSome = true := by
      rw [Literal.decode?]
      split <;> rfl
    simp [literal, literalOptions, described, meets, countMet, Kind.holds, hrule, hdecode]
  | _ =>
    simp [literal, literalOptions, described, meets, countMet, Kind.holds, Literal.decode?, hrule]

theorem decode?_encode_literal {j : Json} {a : Literal} (hvalue : j.isValue = true)
    (ha : Literal.decode? j = some a) :
    Literal.decode? a.encode = some a ∧ a.encode.inOrder = a.encode ∧
      (j ≠ .null → a.encode ≠ .null) := by
  cases j with
  | int n =>
    rw [Literal.decode?] at ha
    split at ha
    · next hsmall =>
      cases ha
      simp [Literal.encode, Literal.decode?, hsmall, inOrder]
    · next hlarge =>
      cases ha
      have hfinite := isFinite_ofInt hvalue (Bool.eq_false_iff.mpr hlarge)
      simp [Literal.encode, Literal.decode?, hfinite, inOrder]
  | float x =>
    cases ha
    have hfinite : x.isFinite = true := hvalue
    simp [Literal.encode, Literal.decode?, hfinite, inOrder]
  | array | object => cases ha
  | _ =>
    cases ha
    simp [Literal.encode, Literal.decode?, inOrder]

theorem describes_literal : Describes literal Literal.decode? Literal.encode := by
  refine ⟨fun j hj => ?_, fun j a hvalue hj ha => ?_⟩
  · rw [meets_literal (fun _ => rfl)]
  · obtain ⟨hdecode, horder, hne⟩ := decode?_encode_literal hvalue ha
    rw [horder, meets_literal (fun _ => rfl), hdecode]
    exact ⟨rfl, rfl, hne⟩

theorem describes_primitive : Describes primitive Primitive.decode? Primitive.encode :=
  ((describes_word (fun p => by cases p <;> decide) (by decide)).noted _).named _

theorem describes_distribution : Describes distribution Distribution.decode? Distribution.encode :=
  ((describes_word (fun d => by cases d <;> decide) (by decide)).noted _).named _

theorem describes_names : Describes names Constraint.names? encodeNames :=
  describes_string.list

theorem describes_location : Describes location Location.decode? Location.encode := by
  have hmembers := (describes_required (describes_natural isNatural_uint32) "line").and
    (describes_required (describes_natural isNatural_uint32) "column") (by decide)
  refine ((hmembers.record (by simp [or_comm]) (by simp [or_comm]) (fun p => ⟨p.1, p.2⟩)
    (fun ms _ => ?_) fun _ => rfl).noted _).named _
  rw [map_both]
  rfl

theorem describes_modifiers : Describes modifiers Modifiers.decode? Modifiers.encode := by
  have hflag := fun name => describes_defaulted describes_boolean name ⟨.bool false, rfl, rfl, rfl⟩
  have hdefault := describes_optional describes_literal (orNull_orNull _) "default"
  have hmembers := ((hflag "nullable").and (hflag "not_null") (by decide)).and hdefault (by decide)
  refine ((hmembers.record (by simp [or_assoc, or_comm, or_left_comm]) (by simp)
    (fun p => ⟨p.1.1, p.1.2, p.2⟩) (fun ms _ => ?_) fun _ => rfl).noted _).named _
  simp only [map_both, bind_both]
  rfl

theorem describes_name : DescribesMembers [("name", .string)] ["name"] (required string? "name")
    (fun name => [("name", .string name)]) :=
  describes_required describes_string "name"

theorem describes_optionalName :
    DescribesMembers [("name", .stringOrNull)] [] (optional string? "name")
      (memberIf "name" .string) :=
  describes_optional describes_string orNull_string "name"

theorem describes_fieldNames :
    DescribesMembers [("fields", names)] [] (defaulted [] Constraint.names? "fields")
      (fun fields => [("fields", encodeNames fields)]) :=
  describes_defaulted describes_names "fields" ⟨.array [], rfl, rfl, rfl⟩

theorem describes_options : DescribesMembers [("options", .anyObject)] []
    (defaulted [] object? "options") (fun options => [("options", .object options)]) :=
  describes_defaulted describes_anyObject "options" ⟨.object [], rfl, rfl, rfl⟩

theorem describes_located : DescribesMembers [located] [] (optional Location.decode? "location")
    (memberIf "location" Location.encode) :=
  describes_optional describes_location (orNull_orNull _) "location"

theorem describes_dataType : Describes dataType DataType.decode? DataType.encode := by
  refine ((Describes.one ?_ (by decide) (by decide)).noted _).named _
  simp only [List.forall_mem_cons]
  refine ⟨?primitive, ?array, ?custom, by simp⟩
  case primitive =>
    have hmembers := describes_required describes_primitive "name"
    refine hmembers.kinded (by decide) (by simp [primitive]) (by simp) .primitive
      (fun ms hkind => ?_) fun _ => rfl
    rw [DataType.decode?, tagged?_object hkind, Option.map_eq_bind]
    rfl
  case array =>
    have hitem := describes_required describes_primitive "item"
    have hlength := describes_optional (describes_natural isNatural_uint32)
      (orNull_integer _) "length"
    refine (hitem.and hlength (by decide)).kinded (by decide) (by simp [primitive])
      (by simp [or_comm]) (fun p => .array p.1 p.2) (fun ms hkind => ?_) fun _ => rfl
    rw [DataType.decode?, tagged?_object hkind, map_both]
    rfl
  case custom =>
    refine describes_name.kinded (by decide) (by simp) (by simp) .custom
      (fun ms hkind => ?_) fun _ => rfl
    rw [DataType.decode?, tagged?_object hkind, Option.map_eq_bind]
    rfl

theorem describes_key {kind : String} (make : Option String → List String → Constraint)
    (hdecode : ∀ ms, lookup? "kind" ms = some (.string kind) →
      Constraint.decode? (.object ms) = Constraint.decodeKey? make (.object ms))
    (hencode : ∀ name fields, (make name fields).encode = .object (("kind", .string kind) ::
      (memberIf "name" .string name ++ [("fields", encodeNames fields)]))) :
    Describes (kinded kind [fieldNames, ("name", .stringOrNull)] ["kind"]) Constraint.decode?
      Constraint.encode := by
  have hmembers := describes_optionalName.and describes_fieldNames (by decide)
  refine hmembers.kinded (by decide) (by simp [fieldNames, names, or_comm]) (by simp)
    (fun p => make p.1 p.2) (fun ms hkind => ?_) fun p => hencode p.1 p.2
  rw [hdecode ms hkind, map_both]
  rfl

theorem describes_foreignKey (text : String) :
    Describes
      (kinded "foreign_key"
        [("distribution", described text (orNull distribution)), fieldNames,
          ("name", .stringOrNull), ("target_fields", names), ("target_table", .string)]
        ["kind", "target_fields", "target_table"])
      Constraint.decode? Constraint.encode := by
  have htable := describes_required describes_string "target_table"
  have hfields := describes_required describes_names "target_fields"
  have hspread := describes_optional describes_distribution (orNull_orNull _) "distribution"
  have hlists := (describes_fieldNames.and htable (by decide)).and hfields (by decide)
  have hmembers := (describes_optionalName.and hlists (by decide)).and hspread (by decide)
  refine hmembers.kinded (by decide) (by simp [fieldNames, names, or_assoc, or_comm, or_left_comm])
    (by simp [or_comm]) (fun p => .foreignKey ⟨p.1.1, p.1.2.1.1, p.1.2.1.2, p.1.2.2, p.2⟩)
    (fun ms hkind => ?_) fun _ => rfl
  rw [Constraint.decode?, tagged?_object hkind]
  simp only [map_both, bind_both]
  rfl

theorem describes_check :
    Describes
      (kinded "check" [("expression", .string), ("name", .stringOrNull)] ["expression", "kind"])
      Constraint.decode? Constraint.encode := by
  have hexpression := describes_required describes_string "expression"
  refine (describes_optionalName.and hexpression (by decide)).kinded (by decide)
    (by simp [or_comm]) (by simp [or_comm]) (fun p => .check p.1 p.2) (fun ms hkind => ?_)
      fun _ => rfl
  rw [Constraint.decode?, tagged?_object hkind, map_both]
  rfl

theorem describes_range :
    Describes (kinded "range" [("max", orNull literal), ("min", orNull literal)] ["kind"])
      Constraint.decode? Constraint.encode := by
  have hbound := describes_optional describes_literal (orNull_orNull _)
  refine ((hbound "min").and (hbound "max") (by decide)).kinded (by decide) (by simp [or_comm])
    (by simp) (fun p => .range p.1 p.2) (fun ms hkind => ?_) fun _ => rfl
  rw [Constraint.decode?, tagged?_object hkind, map_both]
  rfl

theorem describes_pattern :
    Describes (kinded "pattern" [("regex", .string)] ["kind", "regex"]) Constraint.decode?
      Constraint.encode := by
  have hregex := describes_required describes_string "regex"
  refine hregex.kinded (by decide) (by simp) (by simp) .pattern (fun ms hkind => ?_) fun _ => rfl
  rw [Constraint.decode?, tagged?_object hkind, Option.map_eq_bind]
  rfl

theorem describes_enum :
    Describes (kinded "enum" [("values", .list literal)] ["kind", "values"]) Constraint.decode?
      Constraint.encode := by
  have hvalues := describes_required describes_literal.list "values"
  refine hvalues.kinded (by decide) (by simp) (by simp) .enum (fun ms hkind => ?_) fun _ => rfl
  rw [Constraint.decode?, tagged?_object hkind, Option.map_eq_bind]
  rfl

theorem describes_length :
    Describes
      (kinded "length" [("max", .integerOrNull .uint64), ("min", .integerOrNull .uint64)] ["kind"])
      Constraint.decode? Constraint.encode := by
  have hbound := describes_optional (describes_natural isNatural_uint64) (orNull_integer _)
  refine ((hbound "min").and (hbound "max") (by decide)).kinded (by decide) (by simp [or_comm])
    (by simp) (fun p => .length p.1 p.2) (fun ms hkind => ?_) fun _ => rfl
  rw [Constraint.decode?, tagged?_object hkind, map_both]
  rfl

theorem describes_constraint : Describes constraint Constraint.decode? Constraint.encode := by
  refine ((Describes.one ?_ (by decide) (by decide)).noted _).named _
  simp only [List.forall_mem_cons]
  refine ⟨.noted (describes_key .primaryKey (fun ms hkind => ?_) fun _ _ => rfl) _,
    (describes_foreignKey _).noted _,
    .noted (describes_key .unique (fun ms hkind => ?_) fun _ _ => rfl) _,
    describes_check.noted _, describes_range.noted _, describes_pattern, describes_enum,
    describes_length.noted _, by simp⟩
  all_goals
    rw [Constraint.decode?, tagged?_object hkind]
    rfl

theorem describes_constraints : DescribesMembers [("constraints", .list constraint)] []
    (defaulted [] (decodeList Constraint.decode?) "constraints")
    (fun cs => [("constraints", ofList Constraint.encode cs)]) :=
  describes_defaulted describes_constraint.list "constraints" ⟨.array [], rfl, rfl, rfl⟩

theorem describes_field : Describes field Field.decode? Field.encode := by
  have htype := describes_required describes_dataType "data_type"
  have hmodifiers := describes_defaulted describes_modifiers.all "modifiers"
    ⟨.object [], rfl, rfl, rfl⟩
  have hmembers := (((describes_name.and htype (by decide)).and hmodifiers (by decide)).and
    describes_constraints (by decide)).and describes_located (by decide)
  refine ((hmembers.record (by simp [dataType, located, or_assoc, or_comm, or_left_comm])
    (by simp [or_comm]) (fun p => ⟨p.1.1.1.1, p.1.1.1.2, p.1.1.2, p.1.2, p.2⟩)
    (fun ms _ => ?_) fun _ => rfl).noted _).named _
  simp only [map_both, bind_both]
  rfl

theorem describes_typeDecl : Describes typeDecl TypeDecl.decode? TypeDecl.encode := by
  have hbase := describes_required describes_dataType "base"
  have hmembers :=
    ((describes_name.and hbase (by decide)).and describes_constraints (by decide)).and
      describes_located (by decide)
  refine ((hmembers.record (by simp [dataType, constraints, located, or_comm, or_left_comm])
    (by simp [or_comm]) (fun p => ⟨p.1.1.1, p.1.1.2, p.1.2, p.2⟩)
    (fun ms _ => ?_) fun _ => rfl).noted _).named _
  simp only [map_both, bind_both]
  rfl

theorem describes_fieldOverride :
    Describes fieldOverride FieldOverride.decode? FieldOverride.encode := by
  have hstrategy := describes_required describes_string "strategy"
  refine (((hstrategy.and describes_options (by decide)).record (by simp [options, or_comm])
    (by simp) (fun p => ⟨p.1, p.2⟩) (fun ms _ => ?_) fun _ => rfl).noted _).named _
  rw [map_both]
  rfl

theorem describes_directive : Describes directive Directive.decode? Directive.encode := by
  have hcount := describes_optional (describes_natural isNatural_uint64) (orNull_integer _) "count"
  have hstrategy := describes_defaulted describes_string "strategy"
    ⟨.string StrategyKind.random.name, rfl, rfl, rfl⟩
  have hoverrides := describes_defaulted describes_fieldOverride.map "overrides"
    ⟨.object [], rfl, rfl, rfl⟩
  have hways := (hstrategy.and describes_options (by decide)).and hoverrides (by decide)
  have hmembers := (hcount.and hways (by decide)).and describes_located (by decide)
  refine ((hmembers.record
    (by simp [options, located, fieldOverride, or_assoc, or_comm, or_left_comm]) (by simp)
    (fun p => ⟨p.1.1, p.1.2.1.1, p.1.2.1.2, p.1.2.2, p.2⟩) (fun ms _ => ?_)
    fun _ => rfl).noted _).named _
  simp only [map_both, bind_both]
  rfl

theorem describes_table : Describes table Table.decode? Table.encode := by
  have hfields := describes_defaulted describes_field.list "fields" ⟨.array [], rfl, rfl, rfl⟩
  have hdirective := describes_optional describes_directive (orNull_orNull _) "directive"
  have hmembers := (((describes_name.and hfields (by decide)).and describes_constraints
    (by decide)).and hdirective (by decide)).and describes_located (by decide)
  refine ((hmembers.record (by simp [constraints, located, or_comm, or_left_comm]) (by simp)
    (fun p => ⟨p.1.1.1.1, p.1.1.1.2, p.1.1.2, p.1.2, p.2⟩) (fun ms _ => ?_)
    fun _ => rfl).noted _).named _
  simp only [map_both, bind_both]
  rfl

theorem describes_schema : Describes schemaRecord Schema.decode? Schema.encode := by
  have htables := describes_defaulted describes_table.list "tables" ⟨.array [], rfl, rfl, rfl⟩
  have htypes := fun name =>
    describes_defaulted describes_typeDecl.list name ⟨.array [], rfl, rfl, rfl⟩
  have hmembers := (((describes_name.and htables (by decide)).and (htypes "types") (by decide)).and
    (htypes "imports") (by decide)).and describes_located (by decide)
  refine (hmembers.record (by simp [located, or_assoc, or_comm, or_left_comm]) (by simp)
    (fun p => ⟨p.1.1.1.1, p.1.1.1.2, p.1.1.2, p.1.2, p.2⟩) (fun ms _ => ?_) fun _ => rfl).noted _
  simp only [map_both, bind_both]
  rfl

end Fixtures.Contract
