/-! # String literals

A storage key appears in the class as a Java string literal. The two characters
that could end the literal or begin an escape are escaped, and so are the three
control characters that would break or distort the line. The scanner reads such
a literal back and stops behind it.
-/

namespace PrefAccessors.Wrapper

/-- The characters that stand for one character inside a literal. -/
def escapeChar (char : Char) : List Char :=
  match char with
  | '"' => ['\\', '"']
  | '\\' => ['\\', '\\']
  | '\n' => ['\\', 'n']
  | '\r' => ['\\', 'r']
  | '\t' => ['\\', 't']
  | _ => [char]

/-- The literal of a text. -/
def literalChars (text : List Char) : List Char := '"' :: text.flatMap escapeChar ++ ['"']

/-- The character that a backslash and another character stand for. -/
def escapedChar? : Char → Option Char
  | '"' => some '"'
  | '\\' => some '\\'
  | 'n' => some '\n'
  | 'r' => some '\r'
  | 't' => some '\t'
  | _ => none

/-- Reads a literal after its opening quotation mark, and gives its text and what follows
it. A line cannot end inside a literal. -/
def scanLiteralBody? : List Char → Option (List Char × List Char)
  | [] => none
  | '\\' :: code :: rest =>
    (escapedChar? code).bind fun char =>
      (scanLiteralBody? rest).map fun scanned => (char :: scanned.1, scanned.2)
  | char :: rest =>
    if char = '"' then some ([], rest)
    else if char = '\\' ∨ char = '\n' ∨ char = '\r' then none
    else (scanLiteralBody? rest).map fun scanned => (char :: scanned.1, scanned.2)

/-- Reads a literal at the start of a text, and gives its text and what follows it. -/
def scanLiteral? : List Char → Option (List Char × List Char)
  | '"' :: rest => scanLiteralBody? rest
  | _ => none

/-- The literal of a text. -/
def stringLiteral (text : String) : String := String.ofList (literalChars text.toList)

end PrefAccessors.Wrapper
