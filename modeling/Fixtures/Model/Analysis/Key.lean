import Fixtures.Model.Analysis.Type

namespace Fixtures.Analysis

open Text

/-- The fields of a key. A key on a field that lists none consists of that field. -/
def keyFields (owner : Option Field) (listed : List String) : List String :=
  match owner, listed with
  | some f, [] => [f.name]
  | _, listed => listed

/-- The set of the fields that are marked as primary, if there are several. -/
def markedKey? (t : Table) : Option (List String) :=
  let marked := t.fields.filter fun f => f.constraints.any fun c =>
    match c with
    | .primaryKey _ [] => true
    | _ => false
  let fields := nameSet (marked.map Field.name)
  if 1 < fields.length then some fields else none

def isKeyOf (t : Table) (fields : List String) : Bool :=
  let wanted := nameSet fields
  t.allConstraints.any (fun (owner, c) =>
    match c with
    | .primaryKey _ listed | .unique _ listed => nameSet (keyFields owner listed) = wanted
    | _ => false) || markedKey? t = some wanted

def fieldListErrors (known : SymbolTable) (t : Table) (what : String) (location : Option Location) :
    List String → List String → List Diagnostic
  | _, [] => []
  | seen, name :: names =>
    let found :=
      if name ∈ seen then
        [.located location <| .inTable t.name <|
          .error .constraintWellFormedness (what ++ " lists field '" ++ name ++ "' twice")]
      else if (known.field? t.name name).isNone then
        [.located location <| .onField name <| .inTable t.name <|
          .error .undefinedField (what ++ " references unknown field '" ++ name ++ "'")]
      else []
    found ++ fieldListErrors known t what location (name :: seen) names

def listErrors (known : SymbolTable) (t : Table) (what : String) (location : Option Location)
    (fields : List String) : List Diagnostic :=
  if fields.isEmpty then
    [.located location <| .inTable t.name <|
      .error .constraintWellFormedness (what ++ " has no fields")]
  else fieldListErrors known t what location [] fields

/-- What is wrong about a field of a foreign key and the field it stands for. -/
def pairErrors (resolve : Resolution) (t target : Table) (location : Option Location)
    (field remote : String) : List Diagnostic :=
  let bad (kind : DiagnosticKind) (message : String) : List Diagnostic :=
    [.onField field <| .located location <| .inTable t.name <| .error kind message]
  match target.field? remote with
  | none =>
    bad .undefinedField
      ("foreign key references unknown field '" ++ target.name ++ "." ++ remote ++ "'")
  | some targetField =>
    match (t.field? field).map (fun f => resolve f.dataType), resolve targetField.dataType with
    | some (.ok own), .ok other =>
      if own.terminal = other.terminal then []
      else
        bad .constraintWellFormedness
          ("foreign key field '" ++ field ++ "' is " ++ own.terminal.text ++ " but '" ++
            target.name ++ "." ++ remote ++ "' is " ++ other.terminal.text)
    | _, _ => []

def targetErrors (resolve : Resolution) (s : Schema) (t : Table) (location : Option Location)
    (k : ForeignKey) : List Diagnostic :=
  let bad (kind : DiagnosticKind) (message : String) : List Diagnostic :=
    [.located location <| .inTable t.name <| .error kind message]
  match s.table? k.targetTable with
  | none =>
    bad .undefinedTable ("foreign key references unknown table '" ++ k.targetTable ++ "'")
  | some target =>
    if k.targetFields.length ≠ k.fields.length then
      bad .constraintWellFormedness
        ("foreign key has " ++ toString k.fields.length ++ " field(s) but references " ++
          toString k.targetFields.length ++ " field(s)")
    else
      match (k.fields.zip k.targetFields).flatMap
          fun pair => pairErrors resolve t target location pair.1 pair.2 with
      | [] =>
        if isKeyOf target k.targetFields then []
        else
          bad .constraintWellFormedness
            ("foreign key target " ++ target.name ++ "(" ++ joined ", " k.targetFields ++
              ") is not declared unique or primary")
      | errors => errors

/-- The keys of a table. Fields that are marked as primary one by one make up one key. -/
structure KeyReview where
  primaryKey : Option Model.Key := none
  primaryIsMarked : Bool := false
  uniqueKeys : List Model.Key := []
  foreignKeys : List ForeignKey := []
  errors : List Diagnostic := []

def KeyReview.addPrimary (keys : KeyReview) (marked : Bool) (key : Model.Key)
    (second : Diagnostic) : KeyReview :=
  match keys.primaryKey with
  | none => { keys with primaryKey := some key, primaryIsMarked := marked }
  | some taken =>
    if marked && keys.primaryIsMarked then
      { keys with primaryKey := some { taken with fields := taken.fields ++ key.fields } }
    else { keys with errors := keys.errors ++ [second] }

def reviewKey (resolve : Resolution) (known : SymbolTable) (s : Schema) (t : Table)
    (keys : KeyReview) (entry : Option Field × Constraint) : KeyReview :=
  let (owner, c) := entry
  let location := placeOf t owner
  let bad (message : String) : Diagnostic :=
    .located location <| .inTable t.name <| .error .constraintWellFormedness message
  match c with
  | .primaryKey name listed =>
    let fields := keyFields owner listed
    match listErrors known t "primary key" location fields with
    | [] =>
      keys.addPrimary (owner.isSome && listed.isEmpty) ⟨name, fields, true⟩
        (bad "table declares more than one primary key")
    | errors => { keys with errors := keys.errors ++ errors }
  | .unique name listed =>
    let fields := keyFields owner listed
    match listErrors known t "unique" location fields with
    | [] => { keys with uniqueKeys := keys.uniqueKeys ++ [⟨name, fields, false⟩] }
    | errors => { keys with errors := keys.errors ++ errors }
  | .foreignKey k =>
    let key := { k with fields := keyFields owner k.fields }
    match listErrors known t "foreign key" location key.fields with
    | [] =>
      match targetErrors resolve s t location key with
      | [] => { keys with foreignKeys := keys.foreignKeys ++ [key] }
      | errors => { keys with errors := keys.errors ++ errors }
    | errors => { keys with errors := keys.errors ++ errors }
  | .check .. => keys
  | .range .. | .pattern .. | .enum .. | .length .. =>
    if owner.isNone then
      { keys with errors := keys.errors ++
        [bad (c.kind ++ " must be attached to a field or type")] }
    else keys

def reviewKeys (resolve : Resolution) (known : SymbolTable) (s : Schema) (t : Table) : KeyReview :=
  t.allConstraints.foldl (reviewKey resolve known s t) {}

end Fixtures.Analysis
