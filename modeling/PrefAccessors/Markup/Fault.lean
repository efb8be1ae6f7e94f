import PrefAccessors.Markup.Delimiter

/-! # Faults of marked-up text

The reasons for which a text cannot be read as a sequence of markup. A syntax
fault is a construct that has no end; a text is ill-formed when its constructs
are complete but do not fit together.
-/

namespace PrefAccessors.Markup

/-- Why the reading of a marked-up text stops. -/
inductive Fault
  | unknownMarkup
  | unclosedComment
  | unclosedCharacterData
  | unclosedDoctype
  | unclosedInstruction
  | unclosedDeclaration
  | unclosedTag
  | unclosedValue (quote : Quote)
  | unclosedReference
  | namelessDoctype
  | unmatchedEndTag (name : String)
  | mismatchedEndTag (expected found : String)
  deriving DecidableEq, Repr

/-- The message for a construct named `what` whose closing mark is missing. -/
def unclosedMessage (what mark : String) : String :=
  what ++ " not closed: `" ++ mark ++ "` not found before end of input"

/-- The message of a fault, with the class of fault in front. -/
def Fault.message : Fault → String
  | unknownMarkup => "syntax error: unknown or missed symbol in markup"
  | unclosedComment => "syntax error: " ++ unclosedMessage "comment" "-->"
  | unclosedCharacterData => "syntax error: " ++ unclosedMessage "CDATA" "]]>"
  | unclosedDoctype => "syntax error: " ++ unclosedMessage "DOCTYPE" ">"
  | unclosedInstruction => "syntax error: " ++ unclosedMessage "processing instruction" "?>"
  | unclosedDeclaration => "syntax error: " ++ unclosedMessage "XML declaration" "?>"
  | unclosedTag => "syntax error: " ++ unclosedMessage "tag" ">"
  | unclosedValue quote =>
    "syntax error: " ++ unclosedMessage "attribute value" (String.singleton quote.char)
  | unclosedReference =>
    "ill-formed document: " ++ unclosedMessage "entity or character reference" ";"
  | namelessDoctype =>
    "ill-formed document: `<!DOCTYPE>` declaration does not contain a name of a document type"
  | unmatchedEndTag name =>
    "ill-formed document: close tag `</" ++ name ++ ">` does not match any open tag"
  | mismatchedEndTag expected found =>
    "ill-formed document: expected `</" ++ expected ++ ">`, but `</" ++ found ++ ">` was found"

end PrefAccessors.Markup
