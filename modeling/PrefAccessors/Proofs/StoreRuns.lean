import Mathlib.Data.List.Basic
import PrefAccessors.Proofs.StatementReading

/-! # Accessors at work on a store

The accessors of preferences are run on a store of typed values. A call binds the
parameters, takes the statements of the body one by one and checks every type on
the way: those of the arguments, of what is written and read, and of what is
returned. After any run of setters each getter returns what was last set under
its key.
-/

namespace PrefAccessors.Wrapper

variable {Value : ValueType → Type}

/-- A value with its type. -/
abbrev TypedValue (Value : ValueType → Type) := (type : ValueType) × Value type

/-- What a store holds under each key. The backend and the editor act on the same one. -/
abbrev Store (Value : ValueType → Type) := String → Option (TypedValue Value)

def Store.empty : Store Value := fun _ => none

def Store.put (store : Store Value) (key : String) (value : TypedValue Value) : Store Value :=
  fun other => if other = key then some value else store other

/-- What a method gives back. The value of an expression that is no parameter is not known, so
the expression itself stands for it. -/
inductive Returned (Value : ValueType → Type)
  | nothing
  | editor
  | value (value : TypedValue Value)
  | expression (text : String)

/-- What an expression denotes under the parameters of a call. -/
def denote (bindings : List (String × TypedValue Value)) (expression : String) : Returned Value :=
  match bindings.lookup expression with
  | some value => .value value
  | none => .expression expression

/-- Whether a method with the return type may give this back. -/
def Returned.fits : ReturnType → Returned Value → Bool
  | .void, .nothing => true
  | .named _, .editor => true
  | .value type, .value given => given.1 == type
  | .value _, .expression _ => true
  | _, _ => false

/-- Runs the statements of a body. There is no outcome if a statement cannot be read, or if a
value is read or written with a method for another type. -/
def runBody (bindings : List (String × TypedValue Value)) (store : Store Value) :
    List String → Option (Store Value × Returned Value)
  | [] => some (store, .nothing)
  | statement :: rest =>
    match readStatement? statement with
    | none => none
    | some .giveEditor => some (store, .editor)
    | some (.read type key fallback) =>
      match store key with
      | none => some (store, denote bindings fallback)
      | some value => if value.1 = type then some (store, .value value) else none
    | some (.write type key argument) =>
      match denote bindings argument with
      | .value value =>
        if value.1 = type then runBody bindings (store.put key value) rest else none
      | _ => none

/-- Calls a method. There is no outcome if the arguments or what is returned have other types
than the method declares. -/
def Method.call (method : Method) (arguments : List (TypedValue Value)) (store : Store Value) :
    Option (Store Value × Returned Value) :=
  if method.parameters.map Parameter.type = arguments.map Sigma.fst then
    (runBody ((method.parameters.map Parameter.name).zip arguments) store method.body).filter
      fun outcome => outcome.2.fits method.returnType
  else none

/-- Whether the method gives a value. -/
def Method.isGetter (method : Method) : Bool :=
  match method.returnType with
  | .value _ => true
  | _ => false

/-- The getter with a number of parameters among the methods of a preference. -/
def getter? (parameters : Nat) (methods : List Method) : Option Method :=
  methods.find? fun method => method.isGetter && method.parameters.length == parameters

/-- The setter among the methods of a preference. -/
def setter? (methods : List Method) : Option Method :=
  methods.find? fun method => !method.isGetter

def methodsOf (mode : EditorMode) (preference : Preference) : List Method :=
  Receivers.accessors {} mode preference

/-- A setter and the value that is passed to it. -/
structure SetterCall (Value : ValueType → Type) where
  preference : Preference
  value : Value preference.valueType

def SetterCall.typedValue (call : SetterCall Value) : TypedValue Value :=
  ⟨call.preference.valueType, call.value⟩

/-- The store after a setter is called. -/
def SetterCall.run (mode : EditorMode) (store : Store Value) (call : SetterCall Value) :
    Option (Store Value) := do
  let setter ← setter? (methodsOf mode call.preference)
  let (after, _) ← setter.call [call.typedValue] store
  return after

/-- The store after setters are called one after another. -/
def runSetters (mode : EditorMode) (calls : List (SetterCall Value)) (store : Store Value) :
    Option (Store Value) :=
  calls.foldlM (SetterCall.run mode) store

/-- What the getter of a preference with as many parameters as arguments gives back. -/
def callGetter (mode : EditorMode) (preference : Preference)
    (arguments : List (TypedValue Value)) (store : Store Value) : Option (Returned Value) := do
  let getter ← getter? arguments.length (methodsOf mode preference)
  let (_, returned) ← getter.call arguments store
  return returned

/-- The value of the last call that sets a key. -/
def lastSet? (calls : List (SetterCall Value)) (key : String) : Option (TypedValue Value) :=
  (calls.filter fun call => call.preference.key == key).getLast?.map SetterCall.typedValue

/-- Preferences of a group that share a key have the same type. -/
def OneTypePerKey (group : PreferenceGroup) : Prop :=
  ∀ first ∈ group.preferences, ∀ second ∈ group.preferences,
    first.key = second.key → first.valueType = second.valueType

instance (group : PreferenceGroup) : Decidable (OneTypePerKey group) :=
  inferInstanceAs (Decidable (∀ first ∈ group.preferences, ∀ second ∈ group.preferences,
    first.key = second.key → first.valueType = second.valueType))

/-- The statement acts on a key, if it acts on any, with the methods for a type. -/
def Statement.Addresses (key : String) (type : ValueType) : Statement → Prop
  | .read readType readKey _ => readType = type ∧ readKey = key
  | .write writtenType writtenKey _ => writtenType = type ∧ writtenKey = key
  | .giveEditor => True

/-- A method names the type of a preference wherever it names a type, and its statements act on
the key of the preference only. -/
structure Method.Serves (method : Method) (preference : Preference) : Prop where
  parameters : ∀ parameter ∈ method.parameters, parameter.type = preference.valueType
  returnType : ∀ type, method.returnType = .value type → type = preference.valueType
  body : ∀ text ∈ method.body, ∃ statement, readStatement? text = some statement ∧
    statement.Addresses preference.key preference.valueType

/-! ## One call -/

section

variable (mode : EditorMode) (preference : Preference) (store : Store Value)

theorem setter?_methodsOf :
    setter? (methodsOf mode preference) = some (Receivers.setter {} mode preference) := by
  unfold setter? methodsOf Receivers.accessors
  cases preference.default? <;> cases mode <;> rfl

theorem getter?_one_methodsOf :
    getter? 1 (methodsOf mode preference) = some (Receivers.getter {} preference) := by
  unfold getter? methodsOf Receivers.accessors
  cases preference.default? <;> rfl

theorem getter?_zero_methodsOf :
    getter? 0 (methodsOf mode preference) =
      preference.default?.map (Receivers.defaultGetter {} preference) := by
  unfold getter? methodsOf Receivers.accessors
  cases preference.default? <;> cases mode <;> rfl

theorem denote_singleton (parameter : String) (value : TypedValue Value) :
    denote [(parameter, value)] parameter = .value value := by
  simp [denote]

theorem runBody_write {text key argument : String} {type : ValueType}
    {bindings : List (String × TypedValue Value)} {value : Value type} (rest : List String)
    (hread : readStatement? text = some (.write type key argument))
    (hvalue : denote bindings argument = .value ⟨type, value⟩) :
    runBody bindings store (text :: rest) = runBody bindings (store.put key ⟨type, value⟩) rest := by
  simp only [runBody, hread, hvalue, if_true]

theorem runBody_read {text key fallback : String} {type : ValueType} (rest : List String)
    (hread : readStatement? text = some (.read type key fallback))
    (htyped : ∀ value, store key = some value → value.1 = type)
    (bindings : List (String × TypedValue Value)) :
    runBody bindings store (text :: rest) =
      some (store, ((store key).map .value).getD (denote bindings fallback)) := by
  simp only [runBody, hread]
  split
  next hnone => rw [hnone]; rfl
  next value hsome =>
    rw [if_pos (htyped value hsome), hsome]
    rfl

theorem Method.call_eq {method : Method} {arguments : List (TypedValue Value)}
    {store : Store Value} {outcome : Store Value × Returned Value}
    (htypes : method.parameters.map Parameter.type = arguments.map Sigma.fst)
    (hbody : runBody ((method.parameters.map Parameter.name).zip arguments) store method.body =
      some outcome)
    (hfits : outcome.2.fits method.returnType) : method.call arguments store = some outcome := by
  rw [Method.call, if_pos htypes, hbody, Option.filter_some, if_pos hfits]

theorem call_immediateSetter (value : Value preference.valueType) :
    (Receivers.immediateSetter {} preference).call [⟨preference.valueType, value⟩] store =
      some (store.put preference.key ⟨preference.valueType, value⟩, .nothing) :=
  Method.call_eq rfl
    (runBody_write store [] (readStatement?_put_apply preference valueParameter)
      (denote_singleton _ _)) rfl

theorem call_chainedSetter (editorType : String) (value : Value preference.valueType) :
    (Receivers.chainedSetter {} preference editorType).call
        [⟨preference.valueType, value⟩] store =
      some (store.put preference.key ⟨preference.valueType, value⟩, .editor) := by
  refine Method.call_eq rfl ?_ rfl
  refine (runBody_write store _ (readStatement?_put preference valueParameter)
    (denote_singleton _ _)).trans ?_
  simp only [runBody, readStatement?_return_editor]

/-- A setter stores the value that is passed to it and changes nothing under other keys. -/
theorem SetterCall.run_eq (call : SetterCall Value) :
    call.run mode store = some (store.put call.preference.key call.typedValue) := by
  rw [SetterCall.run, setter?_methodsOf]
  cases mode with
  | immediate =>
    have hcall := call_immediateSetter call.preference store call.value
    simp only [Receivers.setter, typedValue, hcall, Option.bind_eq_bind, Option.bind_some,
      Option.pure_def]
  | chained editorType =>
    have hcall := call_chainedSetter call.preference store editorType call.value
    simp only [Receivers.setter, typedValue, hcall, Option.bind_eq_bind, Option.bind_some,
      Option.pure_def]

/-- What a getter gives back has the type of the preference if what is stored has. -/
theorem fits_stored {type : ValueType} {stored : Option (TypedValue Value)}
    (fallback : Returned Value) (htyped : ∀ value, stored = some value → value.1 = type)
    (hfallback : fallback.fits (.value type)) :
    ((stored.map .value).getD fallback).fits (.value type) := by
  cases stored with
  | none => exact hfallback
  | some value => exact beq_iff_eq.mpr (htyped value rfl)

/-- The getter with a parameter gives what is stored under the key, or its argument. -/
theorem callGetter_one (fallback : Value preference.valueType)
    (htyped : ∀ value, store preference.key = some value → value.1 = preference.valueType) :
    callGetter mode preference [⟨preference.valueType, fallback⟩] store =
      some (((store preference.key).map .value).getD (.value ⟨_, fallback⟩)) := by
  have hbody := runBody_read store []
    (readStatement?_get preference fallbackParameter) htyped
    [(fallbackParameter, ⟨preference.valueType, fallback⟩)]
  rw [denote_singleton] at hbody
  have hcall : (Receivers.getter {} preference).call [⟨_, fallback⟩] store = some _ :=
    Method.call_eq rfl hbody (fits_stored (.value ⟨_, fallback⟩) htyped (beq_self_eq_true preference.valueType))
  simp only [callGetter, List.length_singleton, getter?_one_methodsOf, hcall, Option.bind_eq_bind,
    Option.bind_some, Option.pure_def]

/-- The getter without parameters gives what is stored under the key, or the default. -/
theorem callGetter_zero {literal : String} (hdefault : preference.default? = some literal)
    (htyped : ∀ value, store preference.key = some value → value.1 = preference.valueType) :
    callGetter mode preference [] store =
      some (((store preference.key).map .value).getD (.expression literal)) := by
  have hbody := runBody_read store [] (readStatement?_get preference literal)
    htyped []
  have hliteral : denote ([] : List (String × TypedValue Value)) literal = .expression literal :=
    rfl
  rw [hliteral] at hbody
  have hcall : (Receivers.defaultGetter {} preference literal).call [] store = some _ :=
    Method.call_eq rfl hbody (fits_stored (.expression literal) htyped rfl)
  simp only [callGetter, List.length_nil, getter?_zero_methodsOf, hdefault, Option.map_some, hcall,
    Option.bind_eq_bind, Option.bind_some, Option.pure_def]

/-- Every accessor of a preference reads or writes the key of the preference only, and only
with its type. -/
theorem serves_of_mem_methodsOf {method : Method} (hmethod : method ∈ methodsOf mode preference) :
    method.Serves preference := by
  rcases Receivers.mem_accessors_iff.mp hmethod with ⟨literal, hdefault, rfl⟩ | rfl | rfl
  · exact
      { parameters := nofun
        returnType := fun type htype => (ReturnType.value.inj htype).symm
        body := List.forall_mem_singleton.mpr
          ⟨_, readStatement?_get preference literal, rfl, rfl⟩ }
  · exact
      { parameters := List.forall_mem_singleton.mpr rfl
        returnType := fun type htype => (ReturnType.value.inj htype).symm
        body := List.forall_mem_singleton.mpr
          ⟨_, readStatement?_get preference fallbackParameter, rfl, rfl⟩ }
  · cases mode with
    | immediate =>
      exact
        { parameters := List.forall_mem_singleton.mpr rfl
          returnType := nofun
          body := List.forall_mem_singleton.mpr
            ⟨_, readStatement?_put_apply preference valueParameter, rfl, rfl⟩ }
    | chained editorType =>
      exact
        { parameters := List.forall_mem_singleton.mpr rfl
          returnType := nofun
          body := List.forall_mem_cons.mpr
            ⟨⟨_, readStatement?_put preference valueParameter, rfl, rfl⟩,
              List.forall_mem_singleton.mpr ⟨_, readStatement?_return_editor, trivial⟩⟩ }

end

/-! ## Runs of setters -/

theorem lastSet?_cons (call : SetterCall Value) (calls : List (SetterCall Value)) (key : String) :
    lastSet? (call :: calls) key =
      (lastSet? calls key).or (if call.preference.key = key then some call.typedValue else none) := by
  unfold lastSet?
  by_cases hkey : call.preference.key = key
  · rw [List.filter_cons, if_pos (beq_iff_eq.mpr hkey), List.getLast?_cons, if_pos hkey]
    cases (calls.filter fun call => call.preference.key == key).getLast? <;> rfl
  · rw [List.filter_cons, if_neg (mt beq_iff_eq.mp hkey), if_neg hkey, Option.or_none]

/-- A run of setters succeeds, and then each key has what was last set under it. -/
theorem runSetters_eq_some (mode : EditorMode) (calls : List (SetterCall Value))
    (store : Store Value) :
    ∃ after, runSetters mode calls store = some after ∧
      ∀ key, after key = (lastSet? calls key).or (store key) := by
  -- The store is general: the run goes on from what the first call leaves.
  induction calls generalizing store with
  | nil => exact ⟨store, rfl, fun _ => rfl⟩
  | cons call calls ih =>
    obtain ⟨after, hrun, hafter⟩ := ih (store.put call.preference.key call.typedValue)
    refine ⟨after, ?_, fun key => ?_⟩
    · rw [runSetters, List.foldlM_cons, SetterCall.run_eq]
      exact hrun
    · -- What the first call stores counts only if no later call sets the key.
      rw [hafter, lastSet?_cons, Option.or_assoc]
      congr 1
      by_cases hkey : call.preference.key = key
      · rw [if_pos hkey, Store.put, if_pos hkey.symm, Option.some_or]
      · rw [if_neg hkey, Store.put, if_neg (Ne.symm hkey), Option.none_or]

variable {group : PreferenceGroup} {calls : List (SetterCall Value)} {preference : Preference}

/-- What setters of a group leave under the key of a preference has its type. -/
theorem fst_eq_of_lastSet?_eq_some (hkeys : OneTypePerKey group)
    (hcalls : ∀ call ∈ calls, call.preference ∈ group.preferences)
    (hpreference : preference ∈ group.preferences) {value : TypedValue Value}
    (hlast : lastSet? calls preference.key = some value) : value.1 = preference.valueType := by
  obtain ⟨call, hcall, rfl⟩ := Option.map_eq_some_iff.mp hlast
  obtain ⟨hmem, hkey⟩ := List.mem_filter.mp (List.mem_of_getLast? hcall)
  exact hkeys _ (hcalls call hmem) _ hpreference (beq_iff_eq.mp hkey)

/-- Getters give what was last set under their key, whichever setter of the group did it, and
their fallback if none did. Each preference has a getter without parameters exactly if it has a
default, and its accessors keep to its key and its type. -/
theorem callGetter_of_runSetters (hkeys : OneTypePerKey group)
    (hcalls : ∀ call ∈ calls, call.preference ∈ group.preferences)
    (hpreference : preference ∈ group.preferences) :
    ∃ store, runSetters group.editorMode calls Store.empty = some store ∧
      (∀ fallback : Value preference.valueType,
        callGetter group.editorMode preference [⟨preference.valueType, fallback⟩] store =
          some (((lastSet? calls preference.key).map .value).getD (.value ⟨_, fallback⟩))) ∧
      (getter? 0 (methodsOf group.editorMode preference)).isSome = preference.default?.isSome ∧
      (∀ literal, preference.default? = some literal →
        callGetter group.editorMode preference [] store =
          some (((lastSet? calls preference.key).map .value).getD (.expression literal))) ∧
      ∀ method ∈ methodsOf group.editorMode preference, method.Serves preference := by
  obtain ⟨store, hrun, hstore⟩ := runSetters_eq_some group.editorMode calls Store.empty
  have hlast : store preference.key = lastSet? calls preference.key := by
    rw [hstore, Store.empty, Option.or_none]
  have htyped : ∀ value, store preference.key = some value → value.1 = preference.valueType := by
    intro value hvalue
    exact fst_eq_of_lastSet?_eq_some hkeys hcalls hpreference (hlast.symm.trans hvalue)
  refine ⟨store, hrun, fun fallback => ?_, ?_, fun literal hdefault => ?_, fun method hmethod => ?_⟩
  · rw [callGetter_one _ _ _ fallback htyped, hlast]
  · rw [getter?_zero_methodsOf, Option.isSome_map]
  · rw [callGetter_zero _ _ _ hdefault htyped, hlast]
  · exact serves_of_mem_methodsOf _ _ hmethod

def volumePreference : Preference :=
  { field := "volume", key := "a\", 1);\n\\", accessor := "volume", valueType := .integer
    default? := some "7" }

def loudnessPreference : Preference :=
  { volumePreference with field := "loudness", accessor := "loudness", default? := none }

/-- A group in which two preferences share a key. -/
def sharedKeyGroup : PreferenceGroup :=
  { name := "Settings"
    editorMode := .chained "SharedPreferences.Editor"
    preferences := [
      volumePreference,
      { field := "title", key := "title", accessor := "title", valueType := .string },
      loudnessPreference] }

/-- Both preferences with the shared key are set, each value told by its text. -/
def sharedKeyCalls : List (SetterCall fun _ => String) :=
  [{ preference := volumePreference, value := "3" },
    { preference := loudnessPreference, value := "5" }]

theorem callGetter_of_sharedKeyCalls :
    OneTypePerKey sharedKeyGroup ∧
      (∀ call ∈ sharedKeyCalls, call.preference ∈ sharedKeyGroup.preferences) ∧
      volumePreference ∈ sharedKeyGroup.preferences ∧
      ∃ store, runSetters sharedKeyGroup.editorMode sharedKeyCalls Store.empty = some store ∧
        callGetter sharedKeyGroup.editorMode volumePreference [⟨.integer, "0"⟩] store =
          some (.value ⟨.integer, "5"⟩) ∧
        callGetter sharedKeyGroup.editorMode volumePreference [] store =
          some (.value ⟨.integer, "5"⟩) := by
  have hkeys : OneTypePerKey sharedKeyGroup := by decide
  have hcalls : ∀ call ∈ sharedKeyCalls, call.preference ∈ sharedKeyGroup.preferences := by decide
  have hvolume : volumePreference ∈ sharedKeyGroup.preferences := by decide
  obtain ⟨store, hrun, hone, -, hzero, -⟩ := callGetter_of_runSetters hkeys hcalls hvolume
  exact ⟨hkeys, hcalls, hvolume, store, hrun, hone "0", hzero "7" rfl⟩

end PrefAccessors.Wrapper
