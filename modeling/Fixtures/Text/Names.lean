namespace Fixtures.Text

def insertName (name : String) : List String → List String
  | [] => [name]
  | n :: ns =>
    if name < n then name :: n :: ns
    else if name = n then n :: ns
    else n :: insertName name ns

def nameSet (names : List String) : List String :=
  names.foldr insertName []

end Fixtures.Text
