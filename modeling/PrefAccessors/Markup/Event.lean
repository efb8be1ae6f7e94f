import PrefAccessors.Markup.Attribute
import PrefAccessors.Markup.Lexeme

/-! # Events of a document

The events of a document are its lexemes after two further steps: tags are taken
apart into names and attributes, and each closing tag is checked against the
innermost open element. A closing tag that does not fit is a fault of the
document. Elements that are still open at the end are not.
-/

namespace PrefAccessors.Markup

/-- The name and the attributes of an opening or empty tag. -/
structure Tag where
  name : String
  attributes : List Attribute
  deriving DecidableEq, Repr

/-- The name of a tag runs up to the first blank in its content. -/
def Tag.nameOf (content : List Char) : String :=
  String.ofList (content.takeWhile fun char => !isSpace char)

def Tag.attributeText (content : List Char) : List Char := fromNextSpace content

def Tag.ofContent (content : List Char) : Tag where
  name := Tag.nameOf content
  attributes := goodAttributes (attributePieces (Tag.attributeText content))

/-- A part of a document that can matter to its reader. -/
inductive Event
  | startTag (tag : Tag)
  | emptyTag (tag : Tag)
  | endTag
  | text (content : String)
  | characterData (content : String)
  | reference (name : String)
  | ignorable
  deriving DecidableEq, Repr

/-- The events of a document up to its end or its first fault. -/
structure EventStream where
  events : List Event
  fault? : Option Fault
  deriving DecidableEq, Repr

/-- The name of a closing tag is its content without blanks at the end. A content of nothing
but blanks is kept. -/
def endTagName (content : List Char) : String :=
  let trimmed := (content.reverse.dropWhile isSpace).reverse
  String.ofList (if trimmed.isEmpty then content else trimmed)

def EventStream.cons (event : Event) (stream : EventStream) : EventStream :=
  ⟨event :: stream.events, stream.fault?⟩

/-- The events of lexemes that stand within open elements, innermost first. -/
def eventsWithin (openNames : List String) (fault? : Option Fault) : List Lexeme → EventStream
  | [] => ⟨[], fault?⟩
  | lexeme :: rest =>
    match lexeme with
    | .text content => (eventsWithin openNames fault? rest).cons (.text (String.ofList content))
    | .characterData content =>
      (eventsWithin openNames fault? rest).cons (.characterData (String.ofList content))
    | .reference name =>
      (eventsWithin openNames fault? rest).cons (.reference (String.ofList name))
    | .comment | .instruction | .doctype =>
      (eventsWithin openNames fault? rest).cons .ignorable
    | .emptyTag content =>
      (eventsWithin openNames fault? rest).cons (.emptyTag (Tag.ofContent content))
    | .startTag content =>
      (eventsWithin (Tag.nameOf content :: openNames) fault? rest).cons
        (.startTag (Tag.ofContent content))
    | .endTag content =>
      -- A closing tag that does not fit hides the fault behind it and all later events.
      match openNames with
      | [] => ⟨[], some (.unmatchedEndTag (endTagName content))⟩
      | expected :: outer =>
        if endTagName content = expected then (eventsWithin outer fault? rest).cons .endTag
        else ⟨[], some (.mismatchedEndTag expected (endTagName content))⟩

/-- The text without the byte order mark that may stand in front of it. -/
def dropOrderMark : List Char → List Char
  | '\uFEFF' :: rest => rest
  | text => text

def readEvents (source : String) : EventStream :=
  let lexing := lex (dropOrderMark source.toList)
  eventsWithin [] lexing.fault? lexing.lexemes

end PrefAccessors.Markup
