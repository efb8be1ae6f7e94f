import PrefAccessors.Declaration.Reading
import PrefAccessors.Markup.Node

/-! # Declarations in markup trees

What a document declares, told by the shape of its forest instead of the order of
its events. A group is an outermost `preferences` element, its entries are its
`entry` children, and the content of an entry is the text among its own children.
Nodes that are none of these have no effect, whatever is inside them.
-/

namespace PrefAccessors

open Markup (Node Element elementsNamed outermostNamed)

/-- The text that a child of an entry's element adds to its content. What nested elements
hold does not count. -/
def ownText (entry : Entry) : Node → Except DeclarationError String
  | .text content | .characterData content => .ok content
  | .reference name => (referredCharacter entry name).map String.singleton
  | _ => .ok ""

/-- The content of an entry whose element has the given children. -/
def contentOfChildren (entry : Entry) (children : List Node) :
    Except DeclarationError String := do
  let pieces ← children.mapM (ownText entry)
  return String.join pieces

/-- The default that content gives: the trimmed content, unless nothing is left of it. -/
def contentDefault? (content : String) : Option String :=
  let trimmed := Text.trim content.toList
  if trimmed.isEmpty then none else some (String.ofList trimmed)

/-- The entry that an element declares. A default attribute comes before the content. -/
def entryOfElement (element : Element) : Except DeclarationError Entry := do
  let entry ← entryOfAttributes element.tag.attributes
  let content ← contentOfChildren entry element.children
  return { entry with default? := entry.default? <|> contentDefault? content }

/-- The group that an element declares. -/
def groupOfElement (element : Element) : Except DeclarationError Group := do
  let group ← groupOfAttributes element.tag.attributes
  let entries ← (elementsNamed entryElement element.children).mapM entryOfElement
  return { group with entries := entries }

/-- The declarations of a document with the given forest. The first error in the order of the
document is the error of the whole. -/
def declarationsOfForest (forest : List Node) : Except DeclarationError (List Group) := do
  let groups ← (outermostNamed groupElement forest).mapM groupOfElement
  if groups.isEmpty then .error (.invalidStructure .noGroups) else return groups

end PrefAccessors
