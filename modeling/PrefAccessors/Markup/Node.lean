import PrefAccessors.Markup.Event

/-! # Markup trees

A document without faults is a forest: elements with their children, and the
pieces between them. The events of a forest are what a reader of its text meets
from left to right. An element without children can be written with one tag or
with two, and both forms are kept apart in the tree but are the same element.
-/

namespace PrefAccessors.Markup

/-- A piece of a document together with everything inside it. -/
inductive Node
  | empty (tag : Tag)
  | element (tag : Tag) (children : List Node)
  | text (content : String)
  | characterData (content : String)
  | reference (name : String)
  | ignorable

mutual

def Node.events : Node → List Event
  | .empty tag => [.emptyTag tag]
  | .element tag children => .startTag tag :: (forestEvents children ++ [.endTag])
  | .text content => [.text content]
  | .characterData content => [.characterData content]
  | .reference name => [.reference name]
  | .ignorable => [.ignorable]

/-- The events of nodes that stand side by side. -/
def forestEvents : List Node → List Event
  | [] => []
  | node :: rest => node.events ++ forestEvents rest

end

/-- An element in either of its forms. -/
structure Element where
  tag : Tag
  children : List Node

/-- The element that a node is, if it has the name. -/
def Node.elementNamed? (name : String) : Node → Option Element
  | .empty tag => if tag.name = name then some ⟨tag, []⟩ else none
  | .element tag children => if tag.name = name then some ⟨tag, children⟩ else none
  | _ => none

/-- The elements of a name among nodes that stand side by side. -/
def elementsNamed (name : String) (nodes : List Node) : List Element :=
  nodes.filterMap (Node.elementNamed? name)

mutual

/-- The elements of a name in a node that are in no other element of that name, in the order
of the document. -/
def Node.outermost (name : String) : Node → List Element
  | .empty tag => if tag.name = name then [⟨tag, []⟩] else []
  | .element tag children =>
    if tag.name = name then [⟨tag, children⟩] else outermostNamed name children
  | _ => []

/-- The outermost elements of a name in nodes that stand side by side. -/
def outermostNamed (name : String) : List Node → List Element
  | [] => []
  | node :: rest => node.outermost name ++ outermostNamed name rest

end

end PrefAccessors.Markup
