import Fixtures.Text.Ascii

namespace Fixtures.Hex

open Fixtures.Text

def encodeByte (b : UInt8) : List Char :=
  [hexDigit (b.toNat / 16), hexDigit (b.toNat % 16)]

def encodeChars (bytes : List UInt8) : List Char :=
  bytes.flatMap encodeByte

def encode (bytes : List UInt8) : String :=
  String.ofList (encodeChars bytes)

def decodeChars : List Char → Option (List UInt8)
  | [] => some []
  | [_] => none
  | a :: b :: rest => do
    let high ← hexDigit? a
    let low ← hexDigit? b
    let bytes ← decodeChars rest
    return UInt8.ofNat (high * 16 + low) :: bytes

def decode? (s : String) : Option (List UInt8) :=
  decodeChars s.toList

end Fixtures.Hex
