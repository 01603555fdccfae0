import Fixtures.Schema.Text

namespace Fixtures

/-- A built-in type, or an array of one whose length may be fixed. -/
inductive Terminal
  | primitive (p : Primitive)
  | array (item : Primitive) (length : Option Nat)
  deriving DecidableEq, Repr

namespace Terminal

def element : Terminal → Primitive
  | primitive p => p
  | array item _ => item

def isArray : Terminal → Bool
  | array .. => true
  | primitive _ => false

def fixedLength? : Terminal → Option Nat
  | array _ length => length
  | primitive _ => none

def text : Terminal → String
  | primitive p => p.name
  | array item length => arrayText item length

end Terminal

end Fixtures
