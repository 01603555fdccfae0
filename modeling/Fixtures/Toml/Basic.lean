import Fixtures.Json.Basic

namespace Fixtures

/-- How a table came to be: as a step on the way to another header, as a step of a dotted key, or by
a header of its own. -/
inductive Toml.Origin
  | implied
  | dotted
  | declared
  deriving DecidableEq, Repr

inductive Toml
  | string (s : String)
  | integer (n : Int)
  | float (x : Float)
  | boolean (b : Bool)
  | dateTime
  | array (items : List Toml)
  /-- A table in braces, which nothing can be added to. -/
  | inline (entries : List (String × Toml))
  | table (origin : Toml.Origin) (entries : List (String × Toml))
  /-- Tables that share a header in double brackets. -/
  | tables (tables : List Toml)
  deriving Inhabited

namespace Toml

abbrev Entries := List (String × Toml)

def put (key : String) (value : Toml) : Entries → Entries
  | [] => [(key, value)]
  | (k, v) :: rest => if k = key then (key, value) :: rest else (k, v) :: put key value rest

/-- Changes the table at the end of a path, and makes the tables on the way that are not there. With
`dotted` the path is that of a dotted key, which does not enter tables that have a header. Of
several tables under one header the last is entered. -/
def alter (dotted : Bool) (change : Origin → Entries → Option Toml) :
    List String → Toml → Option Toml
  | [], .table origin entries => change origin entries
  | key :: path, .table origin entries => do
    let next ←
      match Json.lookup? key entries with
      | none => alter dotted change path (.table (if dotted then .dotted else .implied) [])
      | some (.table o es) =>
        if dotted && o == .declared then none else alter dotted change path (.table o es)
      | some (.tables ts) =>
        match ts.getLast? with
        | some last => (alter dotted change path last).map fun t => .tables (ts.dropLast ++ [t])
        | none => none
      | some _ => none
    return .table origin (put key next entries)
  | _, _ => none

/-- Sets a key of a table. Dotted keys set keys of tables that dotted keys have made, and other keys
those of other tables. -/
def set (path : List String) (key : String) (value : Toml) : Toml → Option Toml :=
  alter true (fun origin entries =>
    if (origin == .dotted) == path.isEmpty then none
    else if (Json.lookup? key entries).isSome then none
    else some (.table origin (entries ++ [(key, value)]))) path

def declare (path : List String) (key : String) : Toml → Option Toml :=
  alter false (fun origin entries =>
    match Json.lookup? key entries with
    | none => some (.table origin (entries ++ [(key, .table .declared [])]))
    | some (.table .implied es) => some (.table origin (put key (.table .declared es) entries))
    | some _ => none) path

def declareNext (path : List String) (key : String) : Toml → Option Toml :=
  alter false (fun origin entries =>
    match Json.lookup? key entries with
    | none => some (.table origin (entries ++ [(key, .tables [.table .declared []])]))
    | some (.tables ts) =>
      some (.table origin (put key (.tables (ts ++ [.table .declared []])) entries))
    | some _ => none) path

def entries : Toml → Entries
  | table _ entries => entries
  | inline entries => entries
  | _ => []

end Toml

end Fixtures
