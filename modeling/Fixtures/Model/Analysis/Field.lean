import Fixtures.Model.Analysis.Type

namespace Fixtures.Analysis

open Text

def reviewDefault (d : Domain) (l : Literal) : Option Value × List String :=
  let coerced :=
    match d.terminal with
    | .primitive p => Value.ofLiteral? p l
    | .array .. => none
  match coerced with
  | none => (none, ["default " ++ l.written ++ " is not a valid " ++ d.terminal.text])
  | some v =>
    match d.refusal? v with
    | none => (some v, [])
    | some violated => (some v, ["default " ++ l.written ++ " violates " ++ violated])

def customName? : DataType → Option String
  | .custom name => some name
  | _ => none

def reviewField (resolve : Resolution) (t : Table) (f : Field) : Reviewed (Option Model.Field) :=
  let bad (kind : DiagnosticKind) (message : String) : Diagnostic :=
    .located f.location <| .onField f.name <| .inTable t.name <| .error kind message
  let illFormed := bad .constraintWellFormedness
  let undecided :=
    if f.modifiers.nullable && f.modifiers.notNull then
      [illFormed "field is declared both nullable and not null"]
    else []
  match resolve f.dataType with
  | .error e =>
    (none, undecided ++
      [bad (e.kind?.getD .undefinedType) ("cannot resolve type: " ++ e.message)])
  | .ok r =>
    let own := f.constraints.filter Constraint.isOnValue
    let constraints := own ++ r.constraints
    match Domain.build r.terminal constraints with
    | .error e =>
      let message :=
        if own.isEmpty then "type constraints conflict: " ++ e.message else e.message
      (none, undecided ++ [illFormed message])
    | .ok domain =>
      let (default, complaints) :=
        match f.modifiers.default with
        | none | some .null => (none, [])
        | some l => reviewDefault domain l
      let field : Model.Field :=
        ⟨f.name, r.terminal, customName? f.dataType, constraints, domain, !f.modifiers.notNull,
          default, f.location⟩
      (some field, undecided ++ complaints.map illFormed)

def reviewCheck (t : Table) (location : Option Location) (name : Option String) (source : String) :
    Reviewed (Option Model.Check) :=
  match Check.Expression.parse source with
  | .error e =>
    (none, [.located location <| .inTable t.name <| .error .constraintWellFormedness
      ("invalid check expression '" ++ source ++ "': " ++ e.message)])
  | .ok expression =>
    let unknown := expression.fields.filter fun f => (t.field? f).isNone
    let errors := unknown.map fun f =>
      Diagnostic.located location <| .onField f <| .inTable t.name <|
        .error .undefinedField ("check expression references unknown field '" ++ f ++ "'")
    if errors.isEmpty then (some ⟨name, source, expression⟩, []) else (none, errors)

def reviewChecks (t : Table) : List (Reviewed (Option Model.Check)) :=
  t.allConstraints.filterMap fun (owner, c) =>
    match c with
    | .check name source => some (reviewCheck t (placeOf t owner) name source)
    | _ => none

def reviewOverride (t : Table) (d : Directive) (entry : String × FieldOverride) :
    Reviewed (Option (String × Model.Override)) :=
  let (field, o) := entry
  if (t.field? field).isNone then
    (none, [.located d.location <| .onField field <| .inTable t.name <|
      .error .undefinedField ("directive overrides unknown field '" ++ field ++ "'")])
  else
    match StrategyKind.ofName? o.strategy with
    | some strategy => (some (field, ⟨strategy, o.options⟩), [])
    | none =>
      (none, [.onField field <| .located (d.location <|> t.location) <| .inTable t.name <|
        .error .invalidDirective ("unknown strategy '" ++ o.strategy ++ "'")])

def isDistribution (j : Json) : Bool :=
  (j.string?.bind Distribution.ofName?).isSome

def reviewDirective (t : Table) : Reviewed Model.Directive :=
  match t.directive with
  | none => ({}, [])
  | some d =>
    let bad (message : String) : Diagnostic :=
      .located (d.location <|> t.location) <| .inTable t.name <| .error .invalidDirective message
    let strategy := StrategyKind.ofName? d.strategy
    let strategyErrors :=
      if strategy.isNone then [bad ("unknown strategy '" ++ d.strategy ++ "'")] else []
    let overrides := d.overrides.map (reviewOverride t d)
    let distributionErrors :=
      match Json.lookup? "distribution" d.options with
      | none => []
      | some j => if isDistribution j then [] else [bad ("unknown distribution " ++ j.compact)]
    (⟨d.count, strategy.getD .random, d.options, overrides.filterMap Prod.fst⟩,
      strategyErrors ++ overrides.flatMap Prod.snd ++ distributionErrors)

end Fixtures.Analysis
