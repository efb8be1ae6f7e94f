import Mathlib.Data.List.Basic
import PrefAccessors.Markup.Delimiter
import PrefAccessors.Proofs.StringLiterals
import PrefAccessors.Wrapper.Accessors

/-! # Reading the statements of accessors

A statement of an accessor is taken apart again: its receiver, the store method
that it calls, the key as the scanner of literals reads it, and the other
argument as it stands. The statements that are rendered for a preference address
its key with the methods for its type, whatever the texts of the key and of the
default are.
-/

namespace PrefAccessors.Wrapper

/-- The type whose values a store method reads or writes, given the end of its name. -/
def typeOfSuffix? (suffix : String) : Option ValueType :=
  ValueType.all.find? fun type => type.storeSuffix == suffix

/-- What a statement of an accessor does. A value is read from the store and returned, with an
expression for the case that the store has none; or it is written; or the editor is
returned. -/
inductive Statement
  | read (type : ValueType) (key fallback : String)
  | write (type : ValueType) (key argument : String)
  | giveEditor
  deriving DecidableEq, Repr

/-- Reads the call of a store method from the text after its receiver: the type that the method
is for, the key, and the argument up to the given end of the statement. -/
def readCall? (verb ending : String) (text : List Char) : Option (ValueType × String × String) := do
  let named ← text.dropPrefix? verb.toList
  let (suffix, arguments) ← Markup.cutAt? ['('] named
  let type ← typeOfSuffix? (String.ofList suffix)
  let (key, others) ← scanLiteral? arguments
  let other ← others.dropPrefix? [',', ' ']
  let argument ← other.dropSuffix? ending.toList
  return (type, String.ofList key, String.ofList argument)

/-- Reads a statement with the default receivers. -/
def readStatement? (statement : String) : Option Statement :=
  match statement.toList.dropPrefix? "return ".toList with
  | some value =>
    if value = "editor".toList then some .giveEditor
    else do
      let call ← value.dropPrefix? "backend.".toList
      let (type, key, fallback) ← readCall? "get" ")" call
      return .read type key fallback
  | none =>
    match statement.toList.dropPrefix? "backend.edit().".toList with
    | some call => do
      let (type, key, argument) ← readCall? "put" ").apply()" call
      return .write type key argument
    | none => do
      let call ← statement.toList.dropPrefix? "editor.".toList
      let (type, key, argument) ← readCall? "put" ")" call
      return .write type key argument

theorem typeOfSuffix?_storeSuffix (type : ValueType) :
    typeOfSuffix? type.storeSuffix = some type := by
  cases type <;> decide

theorem parenthesis_notMem_storeSuffix (type : ValueType) : '(' ∉ type.storeSuffix.toList := by
  cases type <;> decide

/-- The text of a call behind its receiver. -/
def callText (verb : String) (preference : Preference) (argument ending : String) : List Char :=
  verb.toList ++ preference.valueType.storeSuffix.toList ++ '(' ::
    (literalChars preference.key.toList ++ [',', ' '] ++ argument.toList ++ ending.toList)

theorem toList_storeCall (receiver verb : String) (preference : Preference) (argument : String) :
    (storeCall receiver verb preference argument).toList =
      receiver.toList ++ '.' :: callText verb preference argument ")" := by
  simp [storeCall, callText, stringLiteral]

theorem dropSuffix?_append (text mark : List Char) :
    (text ++ mark).dropSuffix? mark = some text :=
  List.dropSuffix?_eq_some_iff.mpr ⟨mark, rfl, beq_self_eq_true mark⟩

/-- Neither the key nor the argument misleads the reading of a call. -/
theorem readCall?_callText (verb : String) (preference : Preference) (argument ending : String) :
    readCall? verb ending (callText verb preference argument ending) =
      some (preference.valueType, preference.key, argument) := by
  have hname := Markup.cutAt?_singleton (parenthesis_notMem_storeSuffix preference.valueType)
    (literalChars preference.key.toList ++ ([',', ' '] ++ (argument.toList ++ ending.toList)))
  have hkey := scanLiteral?_literalChars preference.key.toList
    ([',', ' '] ++ (argument.toList ++ ending.toList))
  rw [callText]
  simp only [readCall?, List.append_assoc, List.dropPrefix?_append_of_beq, beq_self_eq_true, hname,
    hkey, dropSuffix?_append, String.ofList_toList, typeOfSuffix?_storeSuffix,
    Option.bind_eq_bind, Option.bind_some]
  rfl

/-! ## The statements of a preference -/

section

variable (preference : Preference)

theorem readStatement?_get (fallback : String) :
    readStatement? ("return " ++ storeCall "backend" "get" preference fallback) =
      some (.read preference.valueType preference.key fallback) := by
  have hstatement : ("return " ++ storeCall "backend" "get" preference fallback).toList =
      "return ".toList ++ ("backend.".toList ++ callText "get" preference fallback ")") := by
    simp [toList_storeCall]
  -- Returning the editor is tried first and must not match.
  have heditor : "backend.".toList ++ callText "get" preference fallback ")" ≠
      "editor".toList := by
    intro heq
    exact absurd (congrArg List.head? heq) (by simp)
  rw [readStatement?, hstatement, List.dropPrefix?_append_of_beq _ (beq_self_eq_true _)]
  simp only [if_neg heditor, List.dropPrefix?_append_of_beq, beq_self_eq_true, readCall?_callText,
    Option.bind_eq_bind, Option.bind_some]
  rfl

theorem readStatement?_put_apply (argument : String) :
    readStatement? (storeCall ("backend" ++ ".edit()") "put" preference argument ++ ".apply()") =
      some (.write preference.valueType preference.key argument) := by
  have hstatement :
      (storeCall ("backend" ++ ".edit()") "put" preference argument ++ ".apply()").toList =
        "backend.edit().".toList ++ callText "put" preference argument ").apply()" := by
    simp [toList_storeCall, callText]
  rw [readStatement?, hstatement, List.dropPrefix?_append_of_beq _ (beq_self_eq_true _)]
  simp only [readCall?_callText, Option.bind_eq_bind, Option.bind_some]
  rfl

theorem readStatement?_put (argument : String) :
    readStatement? (storeCall "editor" "put" preference argument) =
      some (.write preference.valueType preference.key argument) := by
  have hstatement : (storeCall "editor" "put" preference argument).toList =
      "editor.".toList ++ callText "put" preference argument ")" := by
    simp [toList_storeCall]
  rw [readStatement?, hstatement, List.dropPrefix?_append_of_beq _ (beq_self_eq_true _)]
  simp only [readCall?_callText, Option.bind_eq_bind, Option.bind_some]
  rfl

theorem readStatement?_return_editor : readStatement? ("return " ++ "editor") = some .giveEditor := by
  decide

end

end PrefAccessors.Wrapper
