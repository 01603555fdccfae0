import Fixtures.Numeric.Decimal
import Fixtures.Text.CharClass

namespace Fixtures.Check

open Text

inductive Token
  | name (s : String)
  | number (digits : String)
  | text (s : String)
  | leftParen
  | rightParen
  | comma
  | plus
  | minus
  | star
  | slash
  | eq
  | ne
  | lt
  | le
  | gt
  | ge
  deriving DecidableEq, Repr

namespace Token

def described : Token → String
  | .name s => "'" ++ s ++ "'"
  | .number digits => digits
  | .text s => "string '" ++ s ++ "'"
  | .leftParen => "'('"
  | .rightParen => "')'"
  | .comma => "','"
  | .plus => "'+'"
  | .minus => "'-'"
  | .star => "'*'"
  | .slash => "'/'"
  | .eq => "'='"
  | .ne => "'!='"
  | .lt => "'<'"
  | .le => "'<='"
  | .gt => "'>'"
  | .ge => "'>='"

/-- Whether a token is a keyword in any case. Quotes around a name do not matter. -/
def isKeyword (keyword : String) : Token → Bool
  | .name s => lowerAscii s = keyword
  | _ => false

end Token

inductive ParseError
  /-- A character that starts no token, with its place in bytes. -/
  | unexpectedChar (c : Char) (offset : Nat)
  | unterminatedText
  | invalidNumber (digits : String)
  | unexpectedToken (expected found : String)
  | unexpectedEnd
  deriving DecidableEq, Repr

def ParseError.message : ParseError → String
  | unexpectedChar c offset =>
    "unexpected character '" ++ String.ofList [c] ++ "' at offset " ++ toString offset
  | unterminatedText => "unterminated string literal"
  | invalidNumber digits => "invalid number '" ++ digits ++ "'"
  | unexpectedToken expected found => "expected " ++ expected ++ ", found " ++ found
  | unexpectedEnd => "unexpected end of expression"

namespace Token

/-- The text up to the quote that ends it, after the quote that opens it. -/
def quoted (quote : Char) : List Char → Except ParseError (List Char × List Char)
  | [] => .error .unterminatedText
  | [c] => if c = quote then .ok ([], []) else .error .unterminatedText
  | c :: d :: cs =>
    if c = quote then
      if d = quote then (quoted quote cs).map fun r => (quote :: r.1, r.2) else .ok ([], d :: cs)
    else (quoted quote (d :: cs)).map fun r => (c :: r.1, r.2)

def isNumberChar (c : Char) : Bool :=
  c.isDigit || c = '.'

def isNameStart (c : Char) : Bool :=
  isAlphabetic c || c = '_'

def isNameChar (c : Char) : Bool :=
  isAlphanumeric c || c = '_'

def numeral (digits : String) : Except ParseError Token :=
  if (Decimal.read? digits).isSome then .ok (.number digits) else .error (.invalidNumber digits)

/-- The first token of a text that starts with `c`, and the rest. The offset is that of `c`. -/
def first (offset : Nat) (c : Char) (cs : List Char) : Except ParseError (Token × List Char) :=
  match c, cs with
  | '(', cs => .ok (.leftParen, cs)
  | ')', cs => .ok (.rightParen, cs)
  | ',', cs => .ok (.comma, cs)
  | '+', cs => .ok (.plus, cs)
  | '-', cs => .ok (.minus, cs)
  | '*', cs => .ok (.star, cs)
  | '/', cs => .ok (.slash, cs)
  | '=', '=' :: cs => .ok (.eq, cs)
  | '=', cs => .ok (.eq, cs)
  | '!', '=' :: cs => .ok (.ne, cs)
  | '<', '=' :: cs => .ok (.le, cs)
  | '<', '>' :: cs => .ok (.ne, cs)
  | '<', cs => .ok (.lt, cs)
  | '>', '=' :: cs => .ok (.ge, cs)
  | '>', cs => .ok (.gt, cs)
  | '\'', cs => (quoted '\'' cs).map fun r => (.text (String.ofList r.1), r.2)
  | '"', cs => (quoted '"' cs).map fun r => (.name (String.ofList r.1), r.2)
  | c, cs =>
    if isNumberChar c then
      (numeral (String.ofList (c :: cs.takeWhile isNumberChar))).map fun t =>
        (t, cs.dropWhile isNumberChar)
    else if isNameStart c then
      .ok (.name (String.ofList (c :: cs.takeWhile isNameChar)), cs.dropWhile isNameChar)
    else .error (.unexpectedChar c offset)

theorem map_eq_ok {ε α β : Type} {f : α → β} {x : Except ε α} {b : β} (h : x.map f = .ok b) :
    ∃ a, x = .ok a ∧ f a = b := by
  cases x with
  | error e => cases h
  | ok a => exact ⟨a, rfl, Except.ok.inj h⟩

theorem length_of_quoted {quote : Char} {cs : List Char} {r : List Char × List Char}
    (h : quoted quote cs = .ok r) : r.2.length ≤ cs.length := by
  fun_induction quoted quote cs generalizing r with
  | case1 => cases h
  | case2 => simp_all [← Except.ok.inj h]
  | case3 => cases h
  | case4 cs ih =>
    obtain ⟨a, ha, rfl⟩ := map_eq_ok h
    have := ih ha
    simp only [List.length_cons]
    omega
  | case5 => simp [← Except.ok.inj h]
  | case6 c d cs _ ih =>
    obtain ⟨a, ha, rfl⟩ := map_eq_ok h
    have := ih ha
    simp only [List.length_cons] at this ⊢
    omega

theorem length_dropWhile_le {α : Type} (p : α → Bool) (as : List α) :
    (as.dropWhile p).length ≤ as.length := by
  induction as with
  | nil => simp
  | cons a as ih =>
    rw [List.dropWhile_cons]
    split
    · simp only [List.length_cons]
      omega
    · simp

theorem length_of_first {offset : Nat} {c : Char} {cs : List Char} {r : Token × List Char}
    (h : first offset c cs = .ok r) : r.2.length ≤ cs.length := by
  unfold first at h
  split at h
  case h_16 | h_17 =>
    obtain ⟨a, ha, rfl⟩ := map_eq_ok h
    exact length_of_quoted ha
  case h_18 =>
    split at h
    · obtain ⟨a, _, rfl⟩ := map_eq_ok h
      exact length_dropWhile_le ..
    · split at h
      · cases h
        exact length_dropWhile_le ..
      · cases h
  all_goals
    cases h
    simp

def byteCount (cs : List Char) : Nat :=
  total (cs.map Char.utf8Size)

def ofChars (size : Nat) : List Char → Except ParseError (List Token)
  | [] => .ok []
  | c :: cs =>
    if isBlank c then ofChars size cs
    else
      match _step : first (size - byteCount (c :: cs)) c cs with
      | .error e => .error e
      | .ok (t, rest) => (ofChars size rest).map (t :: ·)
termination_by cs => cs.length
decreasing_by
  · simp
  · exact Nat.lt_succ_of_le (length_of_first _step)

def ofText (source : String) : Except ParseError (List Token) :=
  ofChars source.utf8ByteSize source.toList

end Token

end Fixtures.Check
