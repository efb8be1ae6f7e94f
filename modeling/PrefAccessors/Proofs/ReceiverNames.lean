import Mathlib.Data.List.TakeWhile
import PrefAccessors.Proofs.Identifiers
import PrefAccessors.Proofs.Resolved
import PrefAccessors.Proofs.StatementReading
import PrefAccessors.Wrapper.ClassFile

/-! # Receivers of statements

The statements of an accessor reach the store and the editor through the fields of the class,
which the settings name. The names of the parameters are fixed, and in Java a parameter hides
a field of the same name. A field named as the parameter of a method that uses it is therefore
out of reach there, and the statement calls the parameter. The result here says which settings
exclude this, for groups of either editor mode.
-/

namespace PrefAccessors.Wrapper

/-- The expression of a statement: what is returned, or else all of it. -/
def expressionOf (statement : List Char) : List Char :=
  (statement.dropPrefix? "return ".toList).getD statement

/-- The name with which the expression of a statement begins. -/
def receiverName (statement : String) : String :=
  String.ofList ((expressionOf statement.toList).takeWhile Name.isIdentifierPart)

/-- The names that the statements of a method use as receivers. -/
def Method.receiverNames (method : Method) : List String := method.body.map receiverName

/-- Whether a parameter of the method has the name of a receiver in its body. -/
def Method.CapturesReceiver (method : Method) : Prop :=
  ∃ parameter ∈ method.parameters, parameter.name ∈ method.receiverNames

instance (method : Method) : Decidable method.CapturesReceiver :=
  inferInstanceAs
    (Decidable (∃ parameter ∈ method.parameters, parameter.name ∈ method.receiverNames))

/-- What a name stands for in a method. -/
inductive Denoted
  | parameter (parameter : Parameter)
  | field (type name : String)
  deriving DecidableEq, Repr

/-- What a name stands for in a method of a class with the given fields, each with its type. A
parameter hides a field. -/
def Method.denoted? (method : Method) (fields : List (String × String)) (name : String) :
    Option Denoted :=
  match method.parameters.find? fun parameter => parameter.name == name with
  | some parameter => some (.parameter parameter)
  | none => (fields.find? fun field => field.2 == name).map fun field => .field field.1 field.2

/-- The receiver of the setters for an editor mode. -/
def Receivers.ofSetters (receivers : Receivers) : EditorMode → String
  | .immediate => receivers.backend
  | .chained _ => receivers.editor

/-- Whether no parameter has the name of a field that its method uses. -/
def Receivers.AvoidParameters (receivers : Receivers) (mode : EditorMode) : Prop :=
  receivers.backend ≠ fallbackParameter ∧ receivers.ofSetters mode ≠ valueParameter

/-! ## The names in statements -/

theorem expressionOf_return (value : List Char) :
    expressionOf ("return ".toList ++ value) = value := by
  rw [expressionOf, List.dropPrefix?_append_of_beq _ (beq_self_eq_true _), Option.getD_some]

section

variable {name : String} (hname : Name.isIdentifier name)

include hname

theorem takeWhile_of_isIdentifier :
    name.toList.takeWhile Name.isIdentifierPart = name.toList :=
  List.takeWhile_eq_self_iff.mpr (List.all_eq_true.mp (Name.all_of_isIdentifierChars hname))

theorem takeWhile_append_of_isIdentifier {stop : Char} (hstop : ¬ Name.isIdentifierPart stop)
    (rest : List Char) :
    (name.toList ++ stop :: rest).takeWhile Name.isIdentifierPart = name.toList := by
  have hparts := List.all_eq_true.mp (Name.all_of_isIdentifierChars hname)
  rw [List.takeWhile_append_of_pos hparts, List.takeWhile_cons_of_neg hstop, List.append_nil]

theorem takeWhile_of_call (rest : List Char) :
    (name.toList ++ '.' :: rest).takeWhile Name.isIdentifierPart = name.toList :=
  takeWhile_append_of_isIdentifier hname (by decide) rest

/-- A call is no statement that returns, even if its receiver has the name `return`. -/
theorem expressionOf_call (rest : List Char) :
    expressionOf (name.toList ++ '.' :: rest) = name.toList ++ '.' :: rest := by
  rw [expressionOf]
  cases hreturn : (name.toList ++ '.' :: rest).dropPrefix? "return ".toList with
  | none => rfl
  | some value =>
    obtain ⟨start, hstart, hmark⟩ := List.dropPrefix?_eq_some_iff.mp hreturn
    rw [eq_of_beq hmark] at hstart
    -- The receiver would be the word `return`, with a dot behind it and not a space.
    have hword : Name.isIdentifier "return" := by decide
    have hsame : name.toList = "return".toList := by
      rw [← takeWhile_of_call hname rest, hstart]
      exact takeWhile_append_of_isIdentifier hword (by decide : ¬ Name.isIdentifierPart ' ') value
    rw [hsame] at hstart
    have hmark := List.append_cancel_left
      (show "return".toList ++ '.' :: rest = "return".toList ++ ' ' :: value from hstart)
    cases hmark

theorem receiverName_call {text : String} {rest : List Char}
    (htext : text.toList = name.toList ++ '.' :: rest) : receiverName text = name := by
  rw [receiverName, htext, expressionOf_call hname, takeWhile_of_call hname, String.ofList_toList]

theorem receiverName_return_call {text : String} {rest : List Char}
    (htext : text.toList = name.toList ++ '.' :: rest) :
    receiverName ("return " ++ text) = name := by
  rw [receiverName, String.toList_append, expressionOf_return, htext, takeWhile_of_call hname,
    String.ofList_toList]

theorem receiverName_return : receiverName ("return " ++ name) = name := by
  rw [receiverName, String.toList_append, expressionOf_return, takeWhile_of_isIdentifier hname,
    String.ofList_toList]

end

/-! ## The receivers of accessors -/

section

variable {receivers : Receivers} {mode : EditorMode} {preference : Preference}

theorem receiverNames_defaultGetter (hbackend : Name.isIdentifier receivers.backend)
    (fallback : String) :
    (receivers.defaultGetter preference fallback).receiverNames = [receivers.backend] :=
  congrArg ([·]) (receiverName_return_call hbackend (toList_storeCall _ _ _ _))

theorem receiverNames_getter (hbackend : Name.isIdentifier receivers.backend) :
    (receivers.getter preference).receiverNames = [receivers.backend] :=
  congrArg ([·]) (receiverName_return_call hbackend (toList_storeCall _ _ _ _))

theorem mem_receiverNames_setter_iff (hbackend : Name.isIdentifier receivers.backend)
    (heditor : Name.isIdentifier receivers.editor) {name : String} :
    name ∈ (receivers.setter mode preference).receiverNames ↔ name = receivers.ofSetters mode := by
  cases mode with
  | immediate =>
    have hcall : (storeCall (receivers.backend ++ ".edit()") "put" preference valueParameter ++
          ".apply()").toList = receivers.backend.toList ++ '.' ::
        ("edit().".toList ++ callText "put" preference valueParameter ").apply()") := by
      simp [toList_storeCall, callText]
    have hnames : (receivers.setter .immediate preference).receiverNames = [receivers.backend] :=
      congrArg ([·]) (receiverName_call hbackend hcall)
    rw [hnames, List.mem_singleton, Receivers.ofSetters]
  | chained editorType =>
    have hwrite := receiverName_call heditor
      (toList_storeCall receivers.editor "put" preference valueParameter)
    have hnames : (receivers.setter (.chained editorType) preference).receiverNames =
        [receivers.editor, receivers.editor] := by
      simp only [Method.receiverNames, Receivers.setter, Receivers.chainedSetter, List.map_cons,
        List.map_nil, hwrite, receiverName_return heditor]
    rw [hnames, List.mem_cons, List.mem_singleton, or_self, Receivers.ofSetters]

theorem not_capturesReceiver_defaultGetter (fallback : String) :
    ¬ (receivers.defaultGetter preference fallback).CapturesReceiver := by
  rintro ⟨parameter, hparameter, _⟩
  cases hparameter

theorem capturesReceiver_getter_iff (hbackend : Name.isIdentifier receivers.backend)
    (preference : Preference) :
    (receivers.getter preference).CapturesReceiver ↔ receivers.backend = fallbackParameter := by
  rw [Method.CapturesReceiver, receiverNames_getter hbackend]
  simp [eq_comm]

theorem capturesReceiver_setter_iff (hbackend : Name.isIdentifier receivers.backend)
    (heditor : Name.isIdentifier receivers.editor) (mode : EditorMode) (preference : Preference) :
    (receivers.setter mode preference).CapturesReceiver ↔
      receivers.ofSetters mode = valueParameter := by
  simp only [Method.CapturesReceiver, Receivers.parameters_setter,
    mem_receiverNames_setter_iff hbackend heditor, List.mem_singleton, exists_eq_left, eq_comm]

/-- The receivers of an accessor are fields of the class. -/
theorem exists_type_of_mem_receiverNames {settings : Settings} {method : Method}
    (hbackend : Name.isIdentifier settings.receivers.backend)
    (heditor : Name.isIdentifier settings.receivers.editor)
    (hmethod : method ∈ settings.receivers.accessors mode preference) {name : String}
    (hname : name ∈ method.receiverNames) : ∃ type, (type, name) ∈ classFields settings mode := by
  rcases Receivers.mem_accessors_iff.mp hmethod with ⟨fallback, _, rfl⟩ | rfl | rfl
  · rw [receiverNames_defaultGetter hbackend, List.mem_singleton] at hname
    exact ⟨settings.backendType, hname ▸ List.mem_cons_self⟩
  · rw [receiverNames_getter hbackend, List.mem_singleton] at hname
    exact ⟨settings.backendType, hname ▸ List.mem_cons_self⟩
  · rw [mem_receiverNames_setter_iff hbackend heditor] at hname
    subst hname
    cases mode with
    | immediate => exact ⟨settings.backendType, List.mem_cons_self⟩
    | chained editorType => exact ⟨editorType, List.mem_cons_of_mem _ List.mem_cons_self⟩

/-- The accessors of a preference capture no receiver exactly if the getter with a fallback and the
setter do not. -/
theorem forall_accessors_not_capturesReceiver_iff (hbackend : Name.isIdentifier receivers.backend)
    (heditor : Name.isIdentifier receivers.editor) (mode : EditorMode) (preference : Preference) :
    (∀ method ∈ receivers.accessors mode preference, ¬ method.CapturesReceiver) ↔
      receivers.AvoidParameters mode := by
  rw [Receivers.AvoidParameters, Ne, Ne, ← capturesReceiver_getter_iff hbackend preference,
    ← capturesReceiver_setter_iff hbackend heditor mode preference]
  constructor
  · intro hnone
    exact ⟨hnone _ (Receivers.mem_accessors_iff.mpr (Or.inr (Or.inl rfl))),
      hnone _ (Receivers.mem_accessors_iff.mpr (Or.inr (Or.inr rfl)))⟩
  · rintro ⟨hgetter, hsetter⟩ method hmethod
    rcases Receivers.mem_accessors_iff.mp hmethod with ⟨fallback, _, rfl⟩ | rfl | rfl
    · exact not_capturesReceiver_defaultGetter fallback
    · exact hgetter
    · exact hsetter

end

/-! ## What the receivers stand for -/

section

variable {method : Method} {fields : List (String × String)}

theorem denoted?_of_mem_parameters (fields : List (String × String)) {parameter : Parameter}
    (hparameter : parameter ∈ method.parameters) :
    ∃ hider, method.denoted? fields parameter.name = some (.parameter hider) := by
  unfold Method.denoted?
  split
  next hider _ => exact ⟨hider, rfl⟩
  next hnone =>
    exact absurd (beq_self_eq_true parameter.name) (List.find?_eq_none.mp hnone _ hparameter)

theorem denoted?_of_mem_fields {type name : String}
    (hnone : ∀ parameter ∈ method.parameters, parameter.name ≠ name)
    (hfield : (type, name) ∈ fields) :
    ∃ type, (type, name) ∈ fields ∧ method.denoted? fields name = some (.field type name) := by
  have hparameters : (method.parameters.find? fun parameter => parameter.name == name) = none :=
    List.find?_eq_none.mpr fun parameter hparameter => by simpa using hnone parameter hparameter
  cases hfound : fields.find? fun field => field.2 == name with
  | none => exact absurd (beq_self_eq_true name) (List.find?_eq_none.mp hfound _ hfield)
  | some field =>
    have hsame := List.find?_some hfound
    obtain rfl : field.2 = name := eq_of_beq hsame
    refine ⟨field.1, List.mem_of_find?_eq_some hfound, ?_⟩
    rw [Method.denoted?, hparameters, hfound]
    rfl

end

/-- The receivers of a method are fields of the class exactly if no parameter captures one. In a
class that has accessors none is captured exactly if the store is not named as the parameter of the
getters, and the receiver of the setters not as their parameter. -/
theorem receivers_outcome (settings : Settings) (group : PreferenceGroup)
    (hbackend : Name.isIdentifier settings.backendField)
    (heditor : Name.isIdentifier settings.editorField) :
    ((∀ method ∈ classMethods settings group, ¬ method.CapturesReceiver) ↔
      group.preferences = [] ∨ settings.receivers.AvoidParameters group.editorMode) ∧
    ∀ method ∈ classMethods settings group,
      ((∀ name ∈ method.receiverNames, ∃ type,
          (type, name) ∈ classFields settings group.editorMode ∧
            method.denoted? (classFields settings group.editorMode) name =
              some (.field type name)) ↔
        ¬ method.CapturesReceiver) := by
  have hbackend : Name.isIdentifier settings.receivers.backend := hbackend
  have heditor : Name.isIdentifier settings.receivers.editor := heditor
  constructor
  · rw [classMethods, Receivers.groupAccessors, List.forall_mem_flatMap,
      forall₂_congr fun preference _ => forall_accessors_not_capturesReceiver_iff hbackend heditor
        group.editorMode preference]
    constructor
    · intro havoid
      cases hpreferences : group.preferences with
      | nil => exact Or.inl rfl
      | cons first rest => exact Or.inr (havoid first (hpreferences ▸ List.mem_cons_self))
    · rintro (hnone | havoid) preference hpreference
      · exact absurd (hnone ▸ hpreference) List.not_mem_nil
      · exact havoid
  · intro method hmethod
    obtain ⟨preference, _, hmethod⟩ := List.mem_flatMap.mp hmethod
    constructor
    · rintro hfields ⟨parameter, hparameter, hname⟩
      obtain ⟨type, _, hdenoted⟩ := hfields _ hname
      obtain ⟨hider, hhidden⟩ :=
        denoted?_of_mem_parameters (classFields settings group.editorMode) hparameter
      cases hdenoted.symm.trans hhidden
    · intro hfree name hname
      obtain ⟨type, htype⟩ := exists_type_of_mem_receiverNames hbackend heditor hmethod hname
      refine denoted?_of_mem_fields (fun parameter hparameter heq => hfree ?_) htype
      exact ⟨parameter, hparameter, heq ▸ hname⟩

/-- Fields named as the parameters of methods that do not use them. -/
def swappedSettings : Settings := { backendField := "value", editorField := "defaultValue" }

def chainedVolumeGroup : PreferenceGroup := {
  name := "Audio"
  editorMode := .chained "Editor"
  preferences := [
    Preference.resolve { name := "volume", type? := some .float, default? := some "0.5f" } none
      none] }

theorem receivers_outcome_of_swappedSettings :
    Name.isIdentifier swappedSettings.backendField ∧ Name.isIdentifier swappedSettings.editorField ∧
      ∀ method ∈ classMethods swappedSettings chainedVolumeGroup, ¬ method.CapturesReceiver := by
  have hbackend : Name.isIdentifier swappedSettings.backendField := by decide
  have heditor : Name.isIdentifier swappedSettings.editorField := by decide
  have houtcome := receivers_outcome swappedSettings chainedVolumeGroup hbackend heditor
  exact ⟨hbackend, heditor, houtcome.1.mpr (Or.inr ⟨by decide, by decide⟩)⟩

def volumeGroup : Group := {
  name := "Audio"
  entries := [{ name := "volume", typeSpelling? := some "float" }] }

def valueSettings : Settings := { backendField := "value" }

/-- A store named `value` is out of reach for the setters that apply at once: the class is
generated, and its setter calls the parameter. -/
theorem receivers_captured_of_valueSettings :
    Name.isIdentifier valueSettings.backendField ∧ Name.isIdentifier valueSettings.editorField ∧
      valueSettings.backendField ≠ valueSettings.editorField ∧
      ∃ resolved, volumeGroup.resolve = .ok resolved ∧
        (classSource? valueSettings resolved).isSome ∧
        ∃ method ∈ classMethods valueSettings resolved, method.CapturesReceiver ∧
          method.body = ["value.edit().putFloat(\"volume\", value).apply()"] ∧
          method.denoted? (classFields valueSettings resolved.editorMode) "value" =
            some (.parameter ⟨"value", .float⟩) := by
  have hresolve := Group.resolve_eq_ok_iff.mpr
    ⟨show volumeGroup.typeProblems = [] by decide, by decide, rfl⟩
  exact ⟨by decide, by decide, by decide, _, hresolve, by decide, by decide⟩

end PrefAccessors.Wrapper
