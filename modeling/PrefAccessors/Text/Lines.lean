/-! # Lines of a text

A line ends at a line feed, and a carriage return directly before that line feed
belongs to the line end. A last line without a line feed keeps its carriage
return. Nothing follows a final line feed, so an empty text has no lines.
-/

namespace PrefAccessors.Text

/-- Puts a character in front of the first line, which is a new one if there is no line. -/
def extendFirstLine (char : Char) : List (List Char) → List (List Char)
  | [] => [[char]]
  | line :: rest => (char :: line) :: rest

/-- The lines of a text, without their line ends. -/
def lines : List Char → List (List Char)
  | [] => []
  | '\r' :: '\n' :: rest => [] :: lines rest
  | char :: rest =>
    if char = '\n' then [] :: lines rest else extendFirstLine char (lines rest)

end PrefAccessors.Text
