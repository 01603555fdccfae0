import Fixtures.Regex.Parser
import Fixtures.Random.Draw

namespace Fixtures.Regex

inductive Count
  | exactly (n : Nat)
  | between (least most : Nat)
  deriving DecidableEq, Repr

/-- A sampler. The counts of a repetition are drawn in order, and their product counts. -/
inductive Sampler
  | text (cs : List Char)
  | member (s : CharSet)
  | inOrder (parts : List Sampler)
  | oneOf (choices : List Sampler)
  | repeated (counts : List Count) (part : Sampler)
  deriving Inhabited

inductive SampleError
  | malformed (source : String) (reason : Malformed)
  | anchor
  | unsatisfiable
  deriving DecidableEq, Repr

namespace SampleError

def message : SampleError → String
  | malformed source reason => reason.message source
  | anchor => "anchor is not supported"
  | unsatisfiable => "regex is unsatisfiable"

end SampleError

namespace Sampler

/-- Repeats a sampler; counts of repetitions directly inside each other are kept together, the
inner first. -/
def repeatBy (count : Count) : Sampler → Sampler
  | .repeated counts part => .repeated (counts ++ [count]) part
  | part => .repeated [count] part

/-- The choices of a sampler that only chooses; of another, itself. -/
def choices : Sampler → List Sampler
  | .oneOf ss => ss
  | s => [s]

mutual

/-- The sampler of a pattern. Repetitions without an upper end go up to `maxRepeat` more than
their least count. -/
def ofPattern (maxRepeat : Nat) : Pattern → Except SampleError Sampler
  | .empty => .ok (.text [])
  | .literal cs => .ok (.text cs)
  | .set s => if s.isEmpty then .error .unsatisfiable else .ok (.member s)
  | .look _ => .error .anchor
  | .repetition least most _ p =>
    let most := most.getD (least + maxRepeat)
    if most = 0 then .ok (.text [])
    else
      (ofPattern maxRepeat p).map fun s =>
        if least = most then (if least = 1 then s else s.repeatBy (.exactly least))
        else s.repeatBy (.between least most)
  | .group _ _ p => ofPattern maxRepeat p
  | .concatenation ps => (ofPatterns maxRepeat ps).map .inOrder
  | .alternatives ps => (ofPatterns maxRepeat ps).map fun ss => .oneOf (ss.flatMap choices)

def ofPatterns (maxRepeat : Nat) : List Pattern → Except SampleError (List Sampler)
  | [] => .ok []
  | p :: ps => do
    let s ← ofPattern maxRepeat p
    let ss ← ofPatterns maxRepeat ps
    return s :: ss

end

def drawCount : List Count → Random.Draw Nat
  | [] => return 1
  | .exactly n :: rest => do return n * (← drawCount rest)
  | .between least most :: rest => do
    let extra ← Random.evenly (most - least + 1)
    return (least + extra) * (← drawCount rest)

def repeatDraw (draw : Random.Draw (List Char)) : Nat → Random.Draw (List Char)
  | 0 => return []
  | n + 1 => do
    let head ← draw
    return head ++ (← repeatDraw draw n)

mutual

def draw : Sampler → Random.Draw (List Char)
  | .text cs => return cs
  | .member s => do
    let k ← Random.evenly s.size
    return [s.nth k]
  | .inOrder parts => drawAll parts
  | .oneOf choices => do
    let i ← Random.evenly choices.length
    drawNth choices i
  | .repeated counts part => do
    let n ← drawCount counts
    repeatDraw (draw part) n

def drawAll : List Sampler → Random.Draw (List Char)
  | [] => return []
  | s :: ss => do
    let head ← draw s
    return head ++ (← drawAll ss)

def drawNth : List Sampler → Nat → Random.Draw (List Char)
  | [], _ => return []
  | s :: _, 0 => draw s
  | _ :: ss, i + 1 => drawNth ss i

end

def compile (source : String) (maxRepeat : Nat) : Except SampleError Sampler :=
  match parse source with
  | .error reason => .error (.malformed source reason)
  | .ok pattern => ofPattern maxRepeat pattern

end Sampler

end Fixtures.Regex
