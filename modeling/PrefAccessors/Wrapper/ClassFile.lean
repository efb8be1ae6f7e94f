import PrefAccessors.Wrapper.Accessors
import PrefAccessors.Wrapper.Settings
import PrefAccessors.Wrapper.Layout

/-! # Class files

The class of a preference group: a header comment, the package, the imports, and
a class body with fields, a constructor and the accessors. The name of the group
is the name of the class and must be an identifier.
-/

namespace PrefAccessors.Wrapper

/-- The first line of every class file. -/
def headerComment : String := "// Generated by prefgen. Do not edit."

/-- The import that sets of strings need. -/
def setImport : String := "java.util.Set"

/-- Inserts a name into a strictly increasing list, unless it is there already. -/
def insertName (name : String) : List String → List String
  | [] => [name]
  | first :: rest =>
    if name < first then name :: first :: rest
    else if name = first then first :: rest
    else first :: insertName name rest

/-- The distinct names of a list in increasing order of their code points. -/
def sortedNames (names : List String) : List String := names.foldr insertName []

/-- The package of the class, where the settings come before the group. -/
def classPackage? (settings : Settings) (group : PreferenceGroup) : Option String :=
  settings.package? <|> group.package?

/-- The imports of the class. -/
def classImports (settings : Settings) (group : PreferenceGroup) : List String :=
  sortedNames (settings.imports ++ if group.usesType .stringSet then [setImport] else [])

/-- The expressions through which the accessors of the class reach its fields. -/
def Settings.receivers (settings : Settings) : Receivers :=
  ⟨settings.backendField, settings.editorField⟩

/-- The accessors of the class. -/
def classMethods (settings : Settings) (group : PreferenceGroup) : List Method :=
  settings.receivers.groupAccessors group

/-- The steps before the class itself. -/
def preludeSteps (settings : Settings) (group : PreferenceGroup) : List Step :=
  let imports := classImports settings group
  (if settings.header then [.line headerComment] else []) ++
    (match classPackage? settings group with
      | some package => [.statement ("package " ++ package), .blank]
      | none => []) ++
    imports.map (fun name => .statement ("import " ++ name)) ++
    (if imports.isEmpty then [] else [.blank])

/-- The fields of the class with their types: the store, and the editor of chained groups. -/
def classFields (settings : Settings) (mode : EditorMode) : List (String × String) :=
  (settings.backendType, settings.backendField) ::
    (mode.editorType?.map fun editorType => (editorType, settings.editorField)).toList

/-- The steps for the fields and for the constructor that sets them. -/
def fieldSteps (settings : Settings) (group : PreferenceGroup) : List Step :=
  let fields := classFields settings group.editorMode
  let parameters := fields.map fun (type, name) => type ++ " " ++ name
  fields.map (fun (type, name) => .statement ("private final " ++ type ++ " " ++ name)) ++
    [.blank, .openBlock ("public " ++ group.name ++ "(" ++ ", ".intercalate parameters ++ ")")] ++
    fields.map (fun (_, name) => .statement ("this." ++ name ++ " = " ++ name)) ++
    [.closeBlock]

/-- The steps of the whole class file. -/
def classSteps (settings : Settings) (group : PreferenceGroup) : List Step :=
  preludeSteps settings group ++
    (group.description?.map Step.javadoc).toList ++
    [.openBlock ("public class " ++ group.name)] ++
    fieldSteps settings group ++
    (classMethods settings group).flatMap (fun method => [.blank, .method method]) ++
    [.closeBlock]

/-- The text of the class file, whatever the name of the group is. -/
def classText (settings : Settings) (group : PreferenceGroup) : String :=
  renderSteps settings.indent (classSteps settings group)

/-- The text of the class file, if the name of the group can name a class. -/
def classSource? (settings : Settings) (group : PreferenceGroup) : Option String :=
  if Name.isIdentifier group.name then some (classText settings group) else none

/-- The name of the class file. -/
def classFileName (groupName : String) : String := groupName ++ ".java"

end PrefAccessors.Wrapper
