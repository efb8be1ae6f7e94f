import PrefAccessors.Resolution.PreferenceGroup
import PrefAccessors.Wrapper.Method
import PrefAccessors.Wrapper.StringLiteral

/-! # Accessors of preferences

A preference with a default has a getter without parameters, which falls back to
that default. Every preference has a getter that takes the fallback as a
parameter, and a setter whose form depends on the editor mode of its group.
-/

namespace PrefAccessors.Wrapper

/-- The expressions through which accessors reach the store and the held editor. -/
structure Receivers where
  backend : String := "backend"
  editor : String := "editor"
  deriving DecidableEq, Repr

/-- The parameter of the getter that takes a fallback. -/
def fallbackParameter : String := "defaultValue"

def valueParameter : String := "value"

/-- A call of a store method for a preference, with its key as the first argument. -/
def storeCall (receiver verb : String) (preference : Preference) (argument : String) : String :=
  receiver ++ "." ++ verb ++ preference.valueType.storeSuffix ++ "(" ++
    stringLiteral preference.key ++ ", " ++ argument ++ ")"

/-- The documentation of an accessor: the description of the preference, if it has one, and
then what the accessor does. -/
def accessorDoc (preference : Preference) (text : String) : String :=
  match preference.description? with
  | some description => description ++ "\n" ++ text
  | none => text

/-- The documentation that both getters begin with. -/
def getterDocHead (preference : Preference) : String :=
  "gets '" ++ preference.key ++ "' from the preferences"

def setterDoc (preference : Preference) : String :=
  accessorDoc preference <|
    "sets '" ++ preference.key ++ "' in the preferences.\n@param " ++ valueParameter ++
      " the new value for " ++ preference.key

namespace Receivers

/-- The getter that falls back to the given default. -/
def defaultGetter (receivers : Receivers) (preference : Preference) (fallback : String) :
    Method where
  name := preference.getterName
  returnType := .value preference.valueType
  body := ["return " ++ storeCall receivers.backend "get" preference fallback]
  doc? := some <| accessorDoc preference <|
    getterDocHead preference ++ ", <b>" ++ fallback ++ "</b> if not yet set."

/-- The getter that takes its fallback as a parameter. -/
def getter (receivers : Receivers) (preference : Preference) : Method where
  name := preference.getterName
  parameters := [⟨fallbackParameter, preference.valueType⟩]
  returnType := .value preference.valueType
  body := ["return " ++ storeCall receivers.backend "get" preference fallbackParameter]
  doc? := some <| accessorDoc preference <|
    getterDocHead preference ++ ".\n@param " ++ fallbackParameter ++ " the default value to use"

/-- The setter that writes and applies at once. -/
def immediateSetter (receivers : Receivers) (preference : Preference) : Method where
  name := preference.setterName
  parameters := [⟨valueParameter, preference.valueType⟩]
  returnType := .void
  body := [storeCall (receivers.backend ++ ".edit()") "put" preference valueParameter ++ ".apply()"]
  doc? := some (setterDoc preference)

/-- The setter that writes through the held editor and returns it. -/
def chainedSetter (receivers : Receivers) (preference : Preference) (editorType : String) :
    Method where
  name := preference.setterName
  parameters := [⟨valueParameter, preference.valueType⟩]
  returnType := .named editorType
  body := [
    storeCall receivers.editor "put" preference valueParameter,
    "return " ++ receivers.editor]
  doc? := some (setterDoc preference)

/-- The setter for an editor mode. -/
def setter (receivers : Receivers) (mode : EditorMode) (preference : Preference) : Method :=
  match mode with
  | .immediate => receivers.immediateSetter preference
  | .chained editorType => receivers.chainedSetter preference editorType

section

variable (receivers : Receivers) (mode : EditorMode) (preference : Preference)

@[simp]
theorem name_defaultGetter (fallback : String) :
    (receivers.defaultGetter preference fallback).name = preference.getterName := rfl

@[simp]
theorem name_getter : (receivers.getter preference).name = preference.getterName := rfl

@[simp]
theorem parameters_getter : (receivers.getter preference).parameters =
    [⟨fallbackParameter, preference.valueType⟩] := rfl

/-! The setters of both modes differ in their bodies and return types only. -/

@[simp]
theorem name_setter : (receivers.setter mode preference).name = preference.setterName := by
  cases mode <;> rfl

@[simp]
theorem parameters_setter : (receivers.setter mode preference).parameters =
    [⟨valueParameter, preference.valueType⟩] := by
  cases mode <;> rfl

@[simp]
theorem doc?_setter : (receivers.setter mode preference).doc? = some (setterDoc preference) := by
  cases mode <;> rfl

end

/-- The accessors of a preference in the order in which they appear. -/
def accessors (receivers : Receivers) (mode : EditorMode) (preference : Preference) :
    List Method :=
  (preference.default?.map (receivers.defaultGetter preference)).toList ++
    [receivers.getter preference, receivers.setter mode preference]

theorem mem_accessors_iff {receivers : Receivers} {mode : EditorMode} {preference : Preference}
    {method : Method} :
    method ∈ receivers.accessors mode preference ↔
      (∃ fallback, preference.default? = some fallback ∧
        receivers.defaultGetter preference fallback = method) ∨
      method = receivers.getter preference ∨ method = receivers.setter mode preference := by
  rw [accessors, List.mem_append, Option.mem_toList, Option.map_eq_some_iff, List.mem_cons,
    List.mem_singleton]

/-- The accessors of all preferences of a group. -/
def groupAccessors (receivers : Receivers) (group : PreferenceGroup) : List Method :=
  group.preferences.flatMap (receivers.accessors group.editorMode)

end Receivers

end PrefAccessors.Wrapper
