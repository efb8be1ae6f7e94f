import PrefAccessors.Declaration
import PrefAccessors.Resolution.Problem

/-! # Preference groups

A preference group is a declaration group in which all types are read, all open
parts are filled in, and no problem is left. Resolving a group finds the problems
of all its entries. An entry whose type spelling is unknown is reported for that
and is then left out of the checks on names.
-/

namespace PrefAccessors

/-- A group of preferences, ready to become a class. -/
structure PreferenceGroup where
  name : String
  package? : Option String := none
  defaultType? : Option ValueType := none
  editorMode : EditorMode := .immediate
  description? : Option String := none
  preferences : List Preference
  deriving DecidableEq, Repr

def PreferenceGroup.usesType (group : PreferenceGroup) (type : ValueType) : Bool :=
  group.preferences.any fun preference => preference.valueType == type

/-- The problems of a group that cannot be resolved. -/
structure ResolutionError where
  group : String
  problems : List Problem
  deriving DecidableEq, Repr

/-- The message of a failed resolution: a heading and one line for each problem. -/
def ResolutionError.message (error : ResolutionError) : String :=
  error.problems.foldl (fun text problem => text ++ "\n  - " ++ problem.message)
    (toString error.problems.length ++ " invalid declaration(s) in group '" ++ error.group ++ "'")

/-- The problem with a type spelling, if it is unknown. -/
def typeProblem? (field : String) (spelling? : Option String) : Option Problem :=
  match spelling? with
  | none => none
  | some spelling =>
    if (ValueType.ofSpelling? spelling).isSome then none
    else some (.unsupportedType field spelling)

def Entry.type? (entry : Entry) : Option ValueType := entry.typeSpelling?.bind ValueType.ofSpelling?

/-- Whether the entry has no type spelling or a known one. -/
def Entry.hasKnownType (entry : Entry) : Bool :=
  (typeProblem? entry.name entry.typeSpelling?).isNone

/-- The preference that an entry declares. -/
def Entry.preference (groupDefault? : Option ValueType) (entry : Entry) : Preference :=
  { Preference.resolve ⟨entry.name, entry.type?, entry.default?, entry.booleanPrefix?⟩
      groupDefault? entry.key? with
    description? := entry.description? }

namespace Group

/-- The field under which an unknown default type is reported. -/
def defaultTypeField : String := "<group default>"

/-- The type of entries that have none of their own. -/
def defaultType? (group : Group) : Option ValueType :=
  group.defaultTypeSpelling?.bind ValueType.ofSpelling?

/-- The preferences of the entries whose type is known. -/
def preferences (group : Group) : List Preference :=
  (group.entries.filter Entry.hasKnownType).map (Entry.preference group.defaultType?)

/-- The unknown type spellings, that of the group before those of its entries. -/
def typeProblems (group : Group) : List Problem :=
  (typeProblem? defaultTypeField group.defaultTypeSpelling?).toList ++
    group.entries.filterMap fun entry => typeProblem? entry.name entry.typeSpelling?

def problems (group : Group) : List Problem :=
  group.typeProblems ++ Preference.problems group.preferences

/-- Resolves a group, unless it has problems. -/
def resolve (group : Group) : Except ResolutionError PreferenceGroup :=
  if group.problems.isEmpty then
    .ok {
      name := group.name
      package? := group.package?
      defaultType? := group.defaultType?
      editorMode := group.editorMode
      description? := group.description?
      preferences := group.preferences }
  else .error ⟨group.name, group.problems⟩

end Group

end PrefAccessors
