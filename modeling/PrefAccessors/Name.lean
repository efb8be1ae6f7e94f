import PrefAccessors.Text.Alphabetic
import PrefAccessors.Text.Lowercase
import PrefAccessors.Text.Numeric
import PrefAccessors.Text.UpperMapping

/-! # Names

A declared name is written with underscores between its words. The accessor name
joins the words in camel case, and the names of methods are built from it by
capitalisation. A name can be declared in a Java class only if it is an
identifier.
-/

namespace PrefAccessors.Name

open Text

/-- The text with its first character in upper case, which may become several characters. -/
def capitalizeChars : List Char → List Char
  | [] => []
  | char :: rest => toUpper char ++ rest

/-- The words of a text without the underscores between them. Each word but the first is
capitalised, and `wordStart` says whether the next character opens such a word. -/
def joinWords (wordStart : Bool) : List Char → List Char
  | [] => []
  | char :: rest =>
    if char = '_' then joinWords true rest
    else (if wordStart then toUpper char else [char]) ++ joinWords false rest

/-- The camel-case form of a name. The whole name is lower-cased before its words are joined. -/
def camelCaseChars (name : List Char) : List Char := joinWords false (lowercase name)

/-- Whether an identifier may begin with the character. -/
def isIdentifierStart (char : Char) : Bool :=
  isAlphabetic char || char == '_' || char == '$'

/-- Whether an identifier may go on with the character. -/
def isIdentifierPart (char : Char) : Bool :=
  isAlphabetic char || isNumeric char || char == '_' || char == '$'

/-- Whether the text is a Java identifier. -/
def isIdentifierChars : List Char → Bool
  | [] => false
  | first :: rest => isIdentifierStart first && rest.all isIdentifierPart

def capitalize (name : String) : String := String.ofList (capitalizeChars name.toList)

def camelCase (name : String) : String := String.ofList (camelCaseChars name.toList)

def isIdentifier (name : String) : Bool := isIdentifierChars name.toList

end PrefAccessors.Name
