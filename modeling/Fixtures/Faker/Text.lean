import Fixtures.Faker.Topic
import Fixtures.Faker.Words
import Fixtures.Random.Draw

namespace Fixtures.Faker

open Fixtures.Random

def pick (texts : List String) : Draw String :=
  choose "" texts

def digitFrom (low : Int) : Draw Char := do
  let d ← between .bits32 low 9
  return Char.ofNat (48 + d.toNat)

def fillMark : Char → Draw Char
  | '^' => digitFrom 1
  | '#' => digitFrom 0
  | c => pure c

/-- A format with digits in place of its marks, drawn from left to right. -/
def fillDigits (format : List Char) : Draw (List Char) :=
  format.mapM fillMark

def formatted (formats : List String) : Draw String := do
  let format ← pick formats
  return String.ofList (← fillDigits format.toList)

def phoneFormats : Locale → List String
  | .enUs => phoneFormatsEnUs
  | .ptBr => phoneFormatsPtBr

def capitalized (s : String) : String :=
  match s.toList with
  | [] => s
  | c :: cs => String.ofList (c.toUpper :: cs)

def madeUpName : Draw String := do
  return capitalized (← pick words)

def twoNames : Draw String := do
  let first ← madeUpName
  let second ← madeUpName
  return first ++ " " ++ second

/-- Texts of every locale about every topic. -/
abbrev Library := Locale → Topic → Draw String

/-- The library of filler words. -/
def text (locale : Locale) : Topic → Draw String
  | .email => do
    let user ← pick words
    return user ++ "@example.com"
  | .firstName | .lastName | .city | .company => madeUpName
  | .fullName | .street => twoNames
  | .username | .word => pick words
  | .phone => formatted (phoneFormats locale)
  | .country => pick countries
  | .postalCode => formatted postalCodeFormats
  | .jobTitle => do
    let seniority ← pick jobSeniorities
    let field ← pick jobFields
    let position ← pick jobPositions
    return seniority ++ " " ++ field ++ " " ++ position

end Fixtures.Faker
