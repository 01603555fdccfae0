import Fixtures.Regex.Parser.Group
import Fixtures.Regex.Parser.Item

namespace Fixtures.Regex.Parser

def concatItems (done : List Item) : Pattern × Nat :=
  match done with
  | [] => (.empty, 0)
  | [item] => (item.value, item.depth)
  | items =>
    (.concat (items.reverse.map Item.value), items.foldl (fun n i => max n i.depth) 0 + 1)

mutual

def alternation : Nat → List (Pattern × Nat) → Parse (Pattern × Nat)
  | 0, _ => do fail .nesting (← here)
  | fuel + 1, done => do
    let branch ← sequence fuel []
    if ← isCurrent '|' then
      let _ ← bump
      alternation fuel (branch :: done)
    else
      match done with
      | [] => return branch
      | done =>
        let branches := (branch :: done).reverse
        return (.alternation (branches.map Prod.fst),
          branches.foldl (fun n b => max n b.2) 0 + 1)

/-- Parts of a concatenation up to a bar, a closing parenthesis or the end; `done` holds those read,
last first. -/
def sequence : Nat → List Item → Parse (Pattern × Nat)
  | 0, _ => do fail .nesting (← here)
  | fuel + 1, done => do
    skip
    match ← current? with
    | none => return concatItems done
    | some '|' => return concatItems done
    | some ')' => return concatItems done
    | some '(' => sequence fuel ((← group fuel) :: done)
    | some '[' =>
      let c ← bracketed fuel
      sequence fuel (.pattern (.ofSet c.members) c.depth :: done)
    | some '?' => sequence fuel (← uncounted 0 (some 1) done)
    | some '*' => sequence fuel (← uncounted 0 none done)
    | some '+' => sequence fuel (← uncounted 1 none done)
    | some '{' => sequence fuel (← counted done)
    | some _ => sequence fuel ((← primitive) :: done)

def group : Nat → Parse Item
  | 0 => do fail .nesting (← here)
  | fuel + 1 => do
    let opened ← currentSpan
    let outer := (← get).flags
    let _ ← bump
    skip
    match ← groupOpening opened with
    | .flags => return .flags
    | opening =>
      let (p, depth) ← alternation fuel []
      if !(← isCurrent ')') then fail .groupUnclosed opened
      modify fun s => { s with flags := outer }
      let _ ← bump
      match opening with
      | .numbered number name => return .pattern (.group number name p) (depth + 1)
      | _ => return .pattern p (depth + 1)

end

def expression : Parse Pattern := do
  let start ← place
  let fuel ← remaining
  let (p, depth) ← alternation (4 * fuel + 8) []
  if !(← atEnd) then fail .groupUnopened (← currentSpan)
  if nestLimit < depth then fail .nesting (← since start)
  match (← get).deferred with
  | some m => throw m
  | none => return p

end Fixtures.Regex.Parser

namespace Fixtures.Regex

def parse (text : String) : Except Malformed Pattern :=
  (Parser.expression.run ⟨text.toList, ⟨1, 1⟩, {}, 0, [], none⟩).map Prod.fst

end Fixtures.Regex
