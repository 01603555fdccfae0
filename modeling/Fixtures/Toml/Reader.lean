import Fixtures.Toml.Reader.Number
import Fixtures.Toml.Reader.Text

namespace Fixtures.Toml.Reader

def elements (value : Read Toml) : Nat → List Char → Option (List Toml × List Char)
  | 0, _ => none
  | fuel + 1, cs =>
    match skipAll cs with
    | ']' :: rest => some ([], rest)
    | cs => do
      let (v, rest) ← value cs
      match skipAll rest with
      | ',' :: rest => (elements value fuel rest).map fun r => (v :: r.1, r.2)
      | ']' :: rest => some ([v], rest)
      | _ => none

def keyValue (value : Read Toml) (cs : List Char) :
    Option ((List String × String × Toml) × List Char) := do
  let ((path, k), cs) ← key cs
  let cs ← mark (· = '=') cs
  let (v, cs) ← value (skipSpaces cs)
  return ((path, k, v), cs)

/-- Members of an inline table up to the brace that closes it, of which there is at least one. -/
def inlineMembers (value : Read Toml) : Nat → Toml → List Char → Option (Toml × List Char)
  | 0, _, _ => none
  | fuel + 1, done, cs => do
    let ((path, k, v), rest) ← keyValue value (skipSpaces cs)
    let done ← set path k v done
    match skipSpaces rest with
    | ',' :: rest => inlineMembers value fuel done rest
    | '\x7d' :: rest => some (.inline done.entries, rest)
    | _ => none

/-- A value in which arrays and inline tables are nested less than `depth` deep. -/
def value : Nat → List Char → Option (Toml × List Char)
  | depth, cs =>
    match cs with
    | '"' :: _ => (text cs).map fun r => (.string r.1, r.2)
    | '\'' :: _ => (text cs).map fun r => (.string r.1, r.2)
    | 't' :: 'r' :: 'u' :: 'e' :: rest => some (.boolean true, rest)
    | 'f' :: 'a' :: 'l' :: 's' :: 'e' :: rest => some (.boolean false, rest)
    | '[' :: rest =>
      match depth with
      | 0 => none
      | depth + 1 =>
        (elements (value depth) (rest.length + 1) rest).map fun r => (.array r.1, r.2)
    | '\x7b' :: rest =>
      match depth with
      | 0 => none
      | depth + 1 =>
        match skipSpaces rest with
        | '\x7d' :: rest => some (.inline [], rest)
        | rest => inlineMembers (value depth) (rest.length + 1) (.table .declared []) rest
    | cs => number cs

/-- A document under construction, and the path of the table that keys belong to. -/
structure Draft where
  root : Toml := .table .declared []
  path : List String := []

def Draft.set (d : Draft) (path : List String) (key : String) (v : Toml) : Option Draft :=
  (alter false
    (fun origin entries => Toml.set path key v (.table origin entries)) d.path d.root).map
    fun root => { d with root }

def header (d : Draft) : List Char → Option (Draft × List Char)
  | '[' :: cs => do
    let ((path, k), rest) ← key cs
    let rest ← (mark (· = ']') rest).bind (mark (· = ']'))
    return (⟨← declareNext path k d.root, path ++ [k]⟩, rest)
  | cs => do
    let ((path, k), rest) ← key cs
    let rest ← mark (· = ']') rest
    return (⟨← declare path k d.root, path ++ [k]⟩, rest)

def statement (d : Draft) : List Char → Option (Draft × List Char)
  | '[' :: cs => header d cs
  | cs => do
    let ((path, k, v), rest) ← keyValue (value (maxDepth - 1)) cs
    return (← d.set path k v, rest)

/-- Statements up to the end of the text, each on a line of its own. -/
def statements : Nat → Draft → List Char → Option Draft
  | 0, _, _ => none
  | fuel + 1, d, cs =>
    match skipAll cs with
    | [] => some d
    | cs => do
      let (d, rest) ← statement d cs
      statements fuel d (← endOfLine? rest)

def skipMark : List Char → List Char
  | '\ufeff' :: cs => cs
  | cs => cs

def document? (source : String) : Option Entries :=
  let cs := skipMark source.toList
  (statements (cs.length + 1) {} cs).map fun d => d.root.entries

end Fixtures.Toml.Reader
