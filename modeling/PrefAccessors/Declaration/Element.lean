import PrefAccessors.Declaration
import PrefAccessors.Declaration.Error
import PrefAccessors.Markup.Attribute

/-! # Groups and entries from attributes

The attributes of a tag are decoded in the order in which they stand, and the
first one that cannot be decoded is the error. Attributes with other keys have no
meaning, but they must be decodable all the same. A missing name is noticed only
when all attributes are decoded.
-/

namespace PrefAccessors

def groupElement : String := "preferences"

def entryElement : String := "entry"

/-- The key of an attribute and its value without references. -/
def decodeAttribute (pair : Markup.Attribute) : Except DeclarationError (String × String) :=
  match Markup.unescape? pair.rawValue.toList with
  | some value => .ok (pair.key, String.ofList value)
  | none => .error (.invalidAttribute "attribute" pair.key pair.rawValue)

/-- Whether an editor style asks for chained setters. The case of ASCII letters makes no
difference. -/
def readsAsChained? (style : String) : Option Bool :=
  match String.ofList (style.toList.map Char.toLower) with
  | "immediate" => some false
  | "chained" => some true
  | _ => none

/-- Decodes an attribute of a group, where the editor style must be a known one. -/
def decodeGroupAttribute (pair : Markup.Attribute) :
    Except DeclarationError (String × String) :=
  match decodeAttribute pair with
  | .error error => .error error
  | .ok (key, value) =>
    if key = "editor" ∧ readsAsChained? value = none then
      .error (.invalidAttribute groupElement "editor" value)
    else .ok (key, value)

/-- The editor mode of a group. An editor type means nothing to immediate setters. -/
def editorModeOf (style? editorType? : Option String) : EditorMode :=
  if style?.bind readsAsChained? = some true then
    .chained (editorType?.getD EditorMode.defaultEditorType)
  else .immediate

/-- The group without entries that decoded attributes declare. -/
def groupOfFields (fields : List (String × String)) : Except DeclarationError Group :=
  match fields.lookup "name" with
  | none => .error (.missingAttribute groupElement "name")
  | some name => .ok {
      name := name
      package? := fields.lookup "package"
      defaultTypeSpelling? := fields.lookup "defaultType"
      editorMode := editorModeOf (fields.lookup "editor") (fields.lookup "editorType")
      description? := fields.lookup "description" }

/-- The group without entries that attributes declare. -/
def groupOfAttributes (attributes : List Markup.Attribute) : Except DeclarationError Group :=
  attributes.mapM decodeGroupAttribute >>= groupOfFields

def entryOfFields (fields : List (String × String)) : Except DeclarationError Entry :=
  match fields.lookup "name" with
  | none => .error (.missingAttribute entryElement "name")
  | some name => .ok {
      name := name
      typeSpelling? := fields.lookup "type"
      default? := fields.lookup "default"
      booleanPrefix? := fields.lookup "booleanPrefix"
      key? := fields.lookup "key"
      description? := fields.lookup "description" }

def entryOfAttributes (attributes : List Markup.Attribute) : Except DeclarationError Entry :=
  attributes.mapM decodeAttribute >>= entryOfFields

end PrefAccessors
