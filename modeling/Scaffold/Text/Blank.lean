import Scaffold.Text.CharSet

/-!
# White space

The characters with the Unicode property White_Space.
-/
namespace Scaffold.Text

def whiteSpace : CharSet where
  bounds := [
    0x9, 0xE, 0x20, 0x21, 0x85, 0x86, 0xA0, 0xA1, 0x1680, 0x1681, 0x2000, 0x200B, 0x2028, 0x202A,
    0x202F, 0x2030, 0x205F, 0x2060, 0x3000, 0x3001]

def isBlank (c : Char) : Bool := whiteSpace.contains c.toNat

/-- A text without the white space around it. -/
def trimChars (cs : List Char) : List Char :=
  ((cs.dropWhile isBlank).reverse.dropWhile isBlank).reverse

end Scaffold.Text
