import Fixtures.Schema.Basic

namespace Fixtures

structure FieldSymbol where
  name : String
  index : Nat
  location : Option Location
  deriving DecidableEq, Repr

structure TableSymbol where
  name : String
  index : Nat
  location : Option Location
  fields : List FieldSymbol
  deriving DecidableEq, Repr

namespace TableSymbol

def field? (t : TableSymbol) (name : String) : Option FieldSymbol :=
  t.fields.find? fun f => f.name = name

def hasField (t : TableSymbol) (name : String) : Bool :=
  (t.field? name).isSome

def fieldNames (t : TableSymbol) : List String :=
  t.fields.map FieldSymbol.name

end TableSymbol

structure SymbolTable where
  tables : List TableSymbol := []
  deriving DecidableEq, Repr

namespace SymbolTable

def empty : SymbolTable := {}

def table? (s : SymbolTable) (name : String) : Option TableSymbol :=
  s.tables.find? fun t => t.name = name

def hasTable (s : SymbolTable) (name : String) : Bool :=
  (s.table? name).isSome

def field? (s : SymbolTable) (table field : String) : Option FieldSymbol :=
  (s.table? table).bind fun t => t.field? field

def tableNames (s : SymbolTable) : List String :=
  s.tables.map TableSymbol.name

def declareTable (s : SymbolTable) (name : String) (location : Option Location) :
    Except TableSymbol SymbolTable :=
  match s.table? name with
  | some taken => .error taken
  | none => .ok { tables := s.tables ++ [⟨name, s.tables.length, location, []⟩] }

/-- Adds a field to a table that is there and has no field of its name. -/
def declareField? (s : SymbolTable) (table field : String) (location : Option Location) :
    Option SymbolTable :=
  match s.table? table with
  | none => none
  | some t =>
    if t.hasField field then none
    else
      let added := { t with fields := t.fields ++ [⟨field, t.fields.length, location⟩] }
      some { tables := s.tables.map fun u => if u.name = table then added else u }

end SymbolTable

end Fixtures
