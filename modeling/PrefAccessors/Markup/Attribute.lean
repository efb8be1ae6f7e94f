import PrefAccessors.Markup.Delimiter

/-! # Attributes of a tag

The attributes are read from left to right. A piece of text that is no attribute
is reported as a fault, and reading goes on behind it where that is possible.
The attributes of a tag are the ones that could be read; faulty pieces are passed
over.
-/

namespace PrefAccessors.Markup

/-- A key with its value, as it stands between the quotation marks. -/
structure Attribute where
  key : String
  rawValue : String
  deriving DecidableEq, Repr

/-- Why a piece of a tag is no attribute. -/
inductive AttributeFault
  | missingEquals (key : String)
  | duplicateKey (key : String)
  | missingValue (key : String)
  | unquotedValue (key : String)
  | unclosedValue (key : String)
  deriving DecidableEq, Repr

/-- Whether the character continues a key. -/
def continuesKey (char : Char) : Bool := !isSpace char && char != '='

/-- The text from the first blank on. -/
def fromNextSpace (text : List Char) : List Char := text.dropWhile fun char => !isSpace char

/-- Reads at most `budget` pieces. A key counts as seen once its `=` is found, whatever its
value is. A repeated key is left at the next blank, and so is a value without quotation
marks. -/
def readPieces (budget : Nat) (seen : List (List Char)) (text : List Char) :
    List (Except AttributeFault Attribute) :=
  match budget with
  | 0 => []
  | budget + 1 =>
    match text.dropWhile isSpace with
    | [] => []
    | first :: afterFirst =>
      let key := first :: afterFirst.takeWhile continuesKey
      let keyName := String.ofList key
      match (afterFirst.dropWhile continuesKey).dropWhile isSpace with
      | [] => [.error (.missingEquals keyName)]
      | next :: rest =>
        if next ≠ '=' then
          .error (.missingEquals keyName) :: readPieces budget seen (next :: rest)
        else if seen.contains key then
          .error (.duplicateKey keyName) :: readPieces budget seen (fromNextSpace rest)
        else
          match rest.dropWhile isSpace with
          | [] => [.error (.missingValue keyName)]
          | mark :: value =>
            match Quote.ofChar? mark with
            | none =>
              .error (.unquotedValue keyName) ::
                readPieces budget (key :: seen) (fromNextSpace (mark :: value))
            | some quote =>
              match cutAt? [quote.char] value with
              | none => [.error (.unclosedValue keyName)]
              | some (rawValue, after) =>
                .ok ⟨keyName, String.ofList rawValue⟩ :: readPieces budget (key :: seen) after

/-- The pieces of the text that follows the name of a tag. Every piece has a character, so
the length of the text bounds their number. -/
def attributePieces (text : List Char) : List (Except AttributeFault Attribute) :=
  readPieces text.length [] text

def goodAttributes (pieces : List (Except AttributeFault Attribute)) : List Attribute :=
  pieces.filterMap Except.toOption

end PrefAccessors.Markup
