import PrefAccessors.Declaration.Element

/-! # Writing declaration documents

A document that declares given groups. Every part of a group or an entry that is
present becomes an attribute in double quotes, in which the characters with a
meaning in markup are written as predefined entities.
-/

namespace PrefAccessors

/-- The text that stands for a character inside an attribute value. -/
def escapeMarkup (char : Char) : List Char :=
  match char with
  | '&' => ['&', 'a', 'm', 'p', ';']
  | '<' => ['&', 'l', 't', ';']
  | '>' => ['&', 'g', 't', ';']
  | '"' => ['&', 'q', 'u', 'o', 't', ';']
  | _ => [char]

/-- An attribute with the blank before it. -/
def writeAttribute (key value : String) : String :=
  " " ++ key ++ "=\"" ++ String.ofList (value.toList.flatMap escapeMarkup) ++ "\""

/-- The attributes of the fields that are present. -/
def writeAttributes (fields : List (String × Option String)) : String :=
  String.join <| fields.filterMap fun (key, value?) => value?.map (writeAttribute key)

def Entry.fields (entry : Entry) : List (String × Option String) := [
  ("name", some entry.name),
  ("type", entry.typeSpelling?),
  ("default", entry.default?),
  ("booleanPrefix", entry.booleanPrefix?),
  ("key", entry.key?),
  ("description", entry.description?)]

def Group.fields (group : Group) : List (String × Option String) := [
  ("name", some group.name),
  ("package", group.package?),
  ("defaultType", group.defaultTypeSpelling?),
  ("editor", group.editorMode.editorType?.map fun _ => "chained"),
  ("editorType", group.editorMode.editorType?),
  ("description", group.description?)]

def writeEntry (entry : Entry) : String :=
  "<" ++ entryElement ++ writeAttributes entry.fields ++ "/>"

def writeGroup (group : Group) : String :=
  "<" ++ groupElement ++ writeAttributes group.fields ++ ">" ++
    String.join (group.entries.map writeEntry) ++ "</" ++ groupElement ++ ">"

/-- The document that declares the groups. -/
def writeDeclarations (groups : List Group) : String :=
  "<declarations>" ++ String.join (groups.map writeGroup) ++ "</declarations>"

end PrefAccessors
