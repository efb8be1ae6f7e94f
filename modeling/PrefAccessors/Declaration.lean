/-! # Declarations

A declaration group describes one wrapper class and its preferences as they were
written. Type spellings are kept unread, so that an unknown one can be reported
together with the other problems of its group.
-/

namespace PrefAccessors

/-- How the setters of a group write to the store. An immediate setter opens an editor,
writes and applies. A chained one writes through an editor that the class holds, and
returns it. -/
inductive EditorMode
  | immediate
  | chained (editorType : String)
  deriving DecidableEq, Repr

/-- The type of the held editor, if there is one. -/
def EditorMode.editorType? : EditorMode → Option String
  | immediate => none
  | chained editorType => some editorType

/-- Whether setters can be chained. -/
def EditorMode.isChained (mode : EditorMode) : Bool := mode.editorType?.isSome

/-- The editor type of a chained group that names none. -/
def EditorMode.defaultEditorType : String := "Editor"

/-- A declared preference. -/
structure Entry where
  name : String
  typeSpelling? : Option String := none
  default? : Option String := none
  booleanPrefix? : Option String := none
  key? : Option String := none
  description? : Option String := none
  deriving DecidableEq, Repr

/-- A declared group of preferences, which becomes one class. -/
structure Group where
  name : String
  package? : Option String := none
  defaultTypeSpelling? : Option String := none
  editorMode : EditorMode := .immediate
  description? : Option String := none
  entries : List Entry := []
  deriving DecidableEq, Repr

/-- The group with another entry at its end. -/
def Group.addEntry (group : Group) (entry : Entry) : Group :=
  { group with entries := group.entries ++ [entry] }

/-- The first entry of the given name. -/
def Group.entry? (group : Group) (name : String) : Option Entry :=
  group.entries.find? fun entry => entry.name == name

end PrefAccessors
