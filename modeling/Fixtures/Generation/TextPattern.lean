import Fixtures.Regex.Sample

namespace Fixtures.Generation

def withoutStart : List Char → List Char
  | '^' :: cs => cs
  | cs => cs

/-- Leaves out a dollar sign at the end, unless a backslash stands before it. -/
def withoutEnd (cs : List Char) : List Char :=
  match cs.getLast? with
  | some '$' => if cs.dropLast.getLast? = some '\\' then cs else cs.dropLast
  | _ => cs

def stripAnchors (pattern : String) : String :=
  String.ofList (withoutEnd (withoutStart pattern.toList))

def compilePattern (pattern : String) (maxRepeat : Nat) :
    Except Regex.SampleError Regex.Sampler :=
  Regex.Sampler.compile (stripAnchors pattern) maxRepeat

def patternText (s : Regex.Sampler) : Random.Draw String := do
  return String.ofList (← s.draw)

end Fixtures.Generation
