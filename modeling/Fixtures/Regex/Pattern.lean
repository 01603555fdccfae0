import Fixtures.Regex.CharSet

namespace Fixtures.Regex

/-- What a look at the neighbouring characters asks about word characters. -/
inductive WordLook
  | boundary
  | inside
  | start
  | stop
  | startHalf
  | stopHalf
  deriving DecidableEq, Repr

/-- Conditions on a position between two characters. -/
inductive Look
  | start
  | stop
  | lineStart
  | lineStop
  | carriageLineStart
  | carriageLineStop
  | word (kind : WordLook) (unicode : Bool)
  deriving DecidableEq, Repr

inductive Pattern
  | empty
  | literal (text : List Char)
  | set (members : CharSet)
  | look (condition : Look)
  | repetition (least : Nat) (most : Option Nat) (greedy : Bool) (item : Pattern)
  | group (number : Nat) (name : Option String) (item : Pattern)
  | concatenation (items : List Pattern)
  | alternatives (items : List Pattern)
  deriving Inhabited

namespace Pattern

mutual

def beq : Pattern → Pattern → Bool
  | .empty, .empty => true
  | .literal s, .literal t => s == t
  | .set s, .set t => s == t
  | .look a, .look b => a == b
  | .repetition a b c p, .repetition a' b' c' p' => a == a' && b == b' && c == c' && beq p p'
  | .group n s p, .group n' s' p' => n == n' && s == s' && beq p p'
  | .concatenation ps, .concatenation qs => beqAll ps qs
  | .alternatives ps, .alternatives qs => beqAll ps qs
  | _, _ => false

def beqAll : List Pattern → List Pattern → Bool
  | [], [] => true
  | p :: ps, q :: qs => beq p q && beqAll ps qs
  | _, _ => false

end

instance : BEq Pattern := ⟨beq⟩

def matchesOnlyEmpty : Pattern → Bool
  | .empty => true
  | .literal _ => false
  | .set _ => false
  | .look _ => true
  | .repetition _ _ _ p => p.matchesOnlyEmpty
  | .group _ _ p => p.matchesOnlyEmpty
  | .concatenation ps => ps.attach.all fun ⟨p, _⟩ => p.matchesOnlyEmpty
  | .alternatives ps => ps.attach.all fun ⟨p, _⟩ => p.matchesOnlyEmpty

def ofText (text : List Char) : Pattern :=
  if text.isEmpty then .empty else .literal text

def ofSet (s : CharSet) : Pattern :=
  match s.single? with
  | some c => .literal [c]
  | none => .set s

/-- A repetition. What matches only the empty text is repeated at most once. -/
def repeating (least : Nat) (most : Option Nat) (greedy : Bool) (item : Pattern) : Pattern :=
  let (least, most) :=
    if item.matchesOnlyEmpty then (min least 1, some (min (most.getD 1) 1)) else (least, most)
  if least = 0 && most = some 0 then .empty
  else if least = 1 && most = some 1 then item
  else .repetition least most greedy item

def parts : Pattern → List Pattern
  | .concatenation ps => ps
  | p => [p]

def joinLiterals : List Pattern → List Pattern
  | [] => []
  | .empty :: rest => joinLiterals rest
  | .literal s :: rest =>
    match joinLiterals rest with
    | .literal t :: rest => .literal (s ++ t) :: rest
    | rest => .literal s :: rest
  | p :: rest => p :: joinLiterals rest

def concat (ps : List Pattern) : Pattern :=
  match joinLiterals (ps.flatMap parts) with
  | [] => .empty
  | [p] => p
  | ps => .concatenation ps

def choices : Pattern → List Pattern
  | .alternatives ps => ps
  | p => [p]

def singleChars? : List Pattern → Option CharSet
  | [] => some .empty
  | .literal [c] :: rest => (singleChars? rest).map (CharSet.union (.single c))
  | _ => none

def sets? : List Pattern → Option CharSet
  | [] => some .empty
  | .set s :: rest => (sets? rest).map (CharSet.union s)
  | _ => none

def commonPart : List Pattern → List Pattern → List Pattern
  | p :: ps, q :: qs => if p == q then p :: commonPart ps qs else []
  | _, _ => []

/-- Parts with which all alternatives begin; none unless all are concatenations. -/
def commonStart : List Pattern → List Pattern
  | [] => []
  | .concatenation ps :: rest =>
    rest.foldl
      (fun common p =>
        match p with
        | .concatenation qs => commonPart common qs
        | _ => [])
      ps
  | _ => []

/-- Alternation, with common beginnings lifted out at most `depth` times. -/
def alternationWithin : Nat → List Pattern → Pattern
  | depth, ps =>
    match ps.flatMap choices with
    | [] => .set .empty
    | [p] => p
    | ps =>
      match singleChars? ps, sets? ps with
      | some s, _ => ofSet s
      | none, some s => ofSet s
      | none, none =>
        match depth, commonStart ps with
        | 0, _ => .alternatives ps
        | _ + 1, [] => .alternatives ps
        | depth + 1, common =>
          let rests := ps.map fun p => concat (p.parts.drop common.length)
          concat (common ++ [alternationWithin depth rests])

def alternation (ps : List Pattern) : Pattern :=
  alternationWithin (ps.foldl (fun n p => n + p.parts.length) 1) ps

/-- Rough size in bytes of the automaton that recognises the pattern. -/
def weight : Pattern → Nat
  | .empty => 32
  | .literal text => 32 * text.foldl (fun n c => n + c.utf8Size) 0
  | .set s => if s.isAscii then 32 + 8 * s.ranges.length else 32 + 58 * s.ranges.length
  | .look _ => 32
  | .repetition least most _ p =>
    match most with
    | none => 32 + max least 1 * p.weight
    | some most => 32 + least * p.weight + (most - least) * (p.weight + 32)
  | .group _ _ p => 64 + p.weight
  | .concatenation ps => ps.attach.foldl (fun n ⟨p, _⟩ => n + p.weight) 0
  | .alternatives ps => ps.attach.foldl (fun n ⟨p, _⟩ => n + p.weight + 8) 32

end Pattern

end Fixtures.Regex
