import PrefAccessors.Text.CaseIgnorable
import PrefAccessors.Text.Cased
import PrefAccessors.Text.LowerMapping

/-! # Lower-casing a text

Every character is replaced by its lower-case image on its own, with one
exception. A capital sigma at the end of a word becomes the final form `ς`
instead of `σ`. It ends a word when a cased letter stands before it and none
stands after it, where case-ignorable characters are passed over on both sides.
The neighbours are those of the text as it was written.
-/

namespace PrefAccessors.Text

/-- Whether the first character that is not case-ignorable exists and is cased. -/
def meetsCased : List Char → Bool
  | [] => false
  | char :: rest => if isCaseIgnorable char then meetsCased rest else isCased char

/-- The lower-case image of a character between the reversed text before it and the text
after it. -/
def lowerBetween (before : List Char) (char : Char) (after : List Char) : List Char :=
  if char = 'Σ' then
    [if meetsCased before && !meetsCased after then 'ς' else 'σ']
  else toLower char

/-- Lower-cases a text that stands after another one, whose characters are given in
reverse order. -/
def lowercaseAfter (before : List Char) : List Char → List Char
  | [] => []
  | char :: rest => lowerBetween before char rest ++ lowercaseAfter (char :: before) rest

def lowercase (text : List Char) : List Char := lowercaseAfter [] text

end PrefAccessors.Text
