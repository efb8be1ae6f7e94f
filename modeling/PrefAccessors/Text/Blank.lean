import PrefAccessors.Text.CodePointSet

/-! # Blank characters

The Unicode property White_Space, and the removal of blank characters from both
ends of a text.
-/

namespace PrefAccessors.Text

/-- The code points with the property White_Space. -/
def blankSet : CodePointSet where
  boundaries := [
    0x9, 0xE, 0x20, 0x21, 0x85, 0x86, 0xA0, 0xA1, 0x1680, 0x1681, 0x2000, 0x200B,
    0x2028, 0x202A, 0x202F, 0x2030, 0x205F, 0x2060, 0x3000, 0x3001]

def isBlank (char : Char) : Bool := blankSet.contains char

def trimEnd (text : List Char) : List Char := (text.reverse.dropWhile isBlank).reverse

/-- The text without the blank characters at its start and at its end. -/
def trim (text : List Char) : List Char := trimEnd (text.dropWhile isBlank)

end PrefAccessors.Text
