import Fixtures.Text.Table.GeneralCategory
import Fixtures.Text.Table.Letter

namespace Fixtures.Text

/-- White space: blanks, line and page breaks, and the spaces of all scripts. -/
def whiteSpace : CodePoints :=
  ⟨[(0x9, 0xD), (0x20, 0x20), (0x85, 0x85), (0xA0, 0xA0), (0x1680, 0x1680), (0x2000, 0x200A),
    (0x2028, 0x2029), (0x202F, 0x202F), (0x205F, 0x205F), (0x3000, 0x3000)]⟩

def isBlank (c : Char) : Bool :=
  whiteSpace.contains c.toNat

/-- Letters, letter-like numbers and the marks that make up letters. -/
def isAlphabetic (c : Char) : Bool :=
  if c.toNat < 128 then c.isAlpha else Letter.alphabetic.contains c.toNat

def isNumeric (c : Char) : Bool :=
  if c.toNat < 128 then c.isDigit
  else
    GeneralCategory.nd.contains c.toNat || GeneralCategory.nl.contains c.toNat ||
      GeneralCategory.no.contains c.toNat

def isAlphanumeric (c : Char) : Bool :=
  isAlphabetic c || isNumeric c

def trimmed (s : String) : String :=
  String.ofList ((s.toList.dropWhile isBlank).reverse.dropWhile isBlank).reverse

end Fixtures.Text
