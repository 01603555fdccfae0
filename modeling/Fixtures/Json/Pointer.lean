import Fixtures.Json.Basic
import Fixtures.Text.Ascii

namespace Fixtures.Json.Pointer

def escapeStep (s : String) : String :=
  String.ofList (s.toList.flatMap fun c =>
    if c = '~' then ['~', '0'] else if c = '/' then ['~', '1'] else [c])

def unescape : List Char → List Char
  | '~' :: '1' :: cs => '/' :: unescape cs
  | '~' :: '0' :: cs => '~' :: unescape cs
  | c :: cs => c :: unescape cs
  | [] => []

def render (steps : List String) : String :=
  String.join (steps.map fun s => "/" ++ escapeStep s)

/-- A position in an array: digits without a sign or a leading zero. -/
def index? (s : String) : Option Nat :=
  let cs := s.toList
  if cs.isEmpty || !cs.all Char.isDigit then none
  else if cs.head? = some '0' && cs.length ≠ 1 then none
  else some (Text.natOfDigits cs)

def step? (s : String) (j : Json) : Option Json :=
  match j with
  | .object _ => j.get? s
  | .array items => (index? s).bind fun i => items[i]?
  | _ => none

/-- The part of a value that a pointer names: the empty pointer names the whole. -/
def resolve? (pointer : String) (j : Json) : Option Json :=
  if pointer.isEmpty then some j
  else
    match pointer.toList.splitOn '/' with
    | [] :: steps => steps.foldlM (fun j s => step? (String.ofList (unescape s)) j) j
    | _ => none

end Fixtures.Json.Pointer
