import Fixtures.Toml.Reader.Blank

namespace Fixtures.Toml.Reader

open Text

def codePoint (width : Nat) : Read Char := fun cs => do
  let digits := cs.take width
  if digits.length < width then none
  else
    let values ← digits.mapM hexDigit?
    let code := values.foldl (fun n d => n * 16 + d) 0
    if code < 0xD800 ∨ (0xE000 ≤ code ∧ code < 0x110000) then some (Char.ofNat code, cs.drop width)
    else none

def escape : Read Char
  | 'b' :: cs => some ('\x08', cs)
  | 't' :: cs => some ('\t', cs)
  | 'n' :: cs => some ('\n', cs)
  | 'f' :: cs => some ('\x0c', cs)
  | 'r' :: cs => some ('\r', cs)
  | '"' :: cs => some ('"', cs)
  | '\\' :: cs => some ('\\', cs)
  | 'u' :: cs => codePoint 4 cs
  | 'U' :: cs => codePoint 8 cs
  | _ => none

def textOf (done : List Char) : String :=
  String.ofList done.reverse

/-- The rest of a text in double quotes; `done` holds what is read, last first. -/
def basicTail : Nat → List Char → Read String
  | 0, _, _ => none
  | _ + 1, _, [] => none
  | _ + 1, done, '"' :: cs => some (textOf done, cs)
  | fuel + 1, done, '\\' :: cs => do
    let (c, cs) ← escape cs
    basicTail fuel (c :: done) cs
  | fuel + 1, done, c :: cs => if isPlain c then basicTail fuel (c :: done) cs else none

def literalTail (cs : List Char) : Option (String × List Char) :=
  let body := cs.takeWhile fun c => isPlain c && c ≠ '\''
  match cs.drop body.length with
  | '\'' :: rest => some (String.ofList body, rest)
  | _ => none

/-- Three to five quotes: the last three end the text and those before belong to it. -/
def closing? (quote : Char) (cs : List Char) : Option (List Char × List Char) :=
  let count := min 5 (cs.takeWhile (· = quote)).length
  if count < 3 then none else some (List.replicate (count - 3) quote, cs.drop count)

/-- After a backslash at the end of a line: the text without the blanks that follow. -/
def continuation? (cs : List Char) : Option (List Char) :=
  (newline? (skipSpaces cs)).map fun rest =>
    rest.dropWhile fun c => isSpace c || c = '\n' || c = '\r'

/-- The rest of a text over several lines. With `escapes` a backslash has a meaning. -/
def linesTail (quote : Char) (escapes : Bool) : Nat → List Char → Read String
  | 0, _, _ => none
  | fuel + 1, done, cs =>
    match closing? quote cs with
    | some (more, rest) => some (textOf (more ++ done), rest)
    | none =>
      match newline? cs with
      | some rest => linesTail quote escapes fuel ('\n' :: done) rest
      | none =>
        match cs with
        | [] => none
        | c :: cs =>
          if c = '\\' && escapes then
            match continuation? cs with
            | some rest => linesTail quote escapes fuel done rest
            | none => do
              let (c, rest) ← escape cs
              linesTail quote escapes fuel (c :: done) rest
          else if isPlain c then linesTail quote escapes fuel (c :: done) cs
          else none

/-- A text over several lines after its opening quotes. An end of line right after them is no part
of it. -/
def lines (quote : Char) (escapes : Bool) : Read String := fun cs =>
  let cs := (newline? cs).getD cs
  linesTail quote escapes (cs.length + 1) [] cs

def quotedText : Read String
  | '"' :: cs => basicTail (cs.length + 1) [] cs
  | '\'' :: cs => literalTail cs
  | _ => none

def text : Read String
  | '"' :: '"' :: '"' :: cs => lines '"' true cs
  | '\'' :: '\'' :: '\'' :: cs => lines '\'' false cs
  | cs => quotedText cs

def isKeyChar (c : Char) : Bool :=
  c.isAlphanum || c = '-' || c = '_'

def simpleKey : Read String := fun cs =>
  match cs with
  | '"' :: _ => quotedText cs
  | '\'' :: _ => quotedText cs
  | cs =>
    let key := cs.takeWhile isKeyChar
    if key.isEmpty then none else some (String.ofList key, cs.drop key.length)

def keyTail : Nat → List String → Read (List String × String)
  | 0, _, _ => none
  | fuel + 1, path, cs => do
    let (key, rest) ← simpleKey (skipSpaces cs)
    match skipSpaces rest with
    | '.' :: more => keyTail fuel (path ++ [key]) more
    | more => some ((path, key), more)

def key : Read (List String × String) := fun cs =>
  keyTail (cs.length + 1) [] cs

end Fixtures.Toml.Reader
