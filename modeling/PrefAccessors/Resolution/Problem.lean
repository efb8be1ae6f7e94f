import PrefAccessors.Preference

/-! # Problems with declarations

The problems of a batch of preferences. An accessor name that is no identifier is
a problem of its own. The other accessor names must be distinct, and each
repetition is reported against the first field that has the name. A storage key
may be used more than once, which is worth a warning but no problem.

A batch is checked in one pass. A preference whose accessor name is no identifier
is passed over: what comes later is not compared with it.
-/

namespace PrefAccessors

/-- A declaration that cannot be accepted. -/
inductive Problem
  | invalidFieldName (field accessor : String)
  | duplicateAccessorName (accessor first second : String)
  | unsupportedType (field typeName : String)
  deriving DecidableEq, Repr

def Problem.message : Problem → String
  | invalidFieldName field accessor =>
    "field '" ++ field ++ "' produces invalid accessor name '" ++ accessor ++ "'"
  | duplicateAccessorName accessor first second =>
    "fields '" ++ first ++ "' and '" ++ second ++ "' both produce accessor name '" ++
      accessor ++ "'"
  | unsupportedType field typeName =>
    "unsupported type '" ++ typeName ++ "' for field '" ++ field ++ "'"

/-- A storage key with two fields that use it. -/
structure SharedKey where
  key : String
  first : String
  second : String
  deriving DecidableEq, Repr

namespace Preference

/-- Whether accessors can be named after the preference. -/
def isNameable (preference : Preference) : Bool := Name.isIdentifier preference.accessor

end Preference

/-- What is known of a batch after the first of its preferences are checked. The two tables tell
which field has an accessor name first and which field uses a storage key last. -/
structure BatchCheck where
  problems : List Problem := []
  sharedKeys : List SharedKey := []
  accessors : List (String × String) := []
  keys : List (String × String) := []
  deriving DecidableEq, Repr

namespace BatchCheck

/-- Enters the accessor name of a preference, unless it is there already. -/
def enterAccessor (check : BatchCheck) (preference : Preference) : BatchCheck :=
  match check.accessors.lookup preference.accessor with
  | some first =>
    { check with
      problems := check.problems ++
        [.duplicateAccessorName preference.accessor first preference.field] }
  | none => { check with accessors := (preference.accessor, preference.field) :: check.accessors }

/-- Enters the storage key of a preference in place of an earlier use. -/
def enterKey (check : BatchCheck) (preference : Preference) : BatchCheck :=
  let sharing? := (check.keys.lookup preference.key).map fun first =>
    ⟨preference.key, first, preference.field⟩
  { check with
    sharedKeys := check.sharedKeys ++ sharing?.toList
    keys := (preference.key, preference.field) :: check.keys }

/-- Checks the next preference of a batch. -/
def step (check : BatchCheck) (preference : Preference) : BatchCheck :=
  if preference.isNameable then (check.enterAccessor preference).enterKey preference
  else
    { check with
      problems := check.problems ++
        [.invalidFieldName preference.field preference.accessor] }

end BatchCheck

namespace Preference

/-- Checks the preferences of a batch one after the other. -/
def checkBatch (preferences : List Preference) : BatchCheck :=
  preferences.foldl BatchCheck.step {}

/-- The problems of a batch of preferences, in the order of the batch. -/
def problems (preferences : List Preference) : List Problem := (checkBatch preferences).problems

/-- The warnings about a batch of preferences, in the order of the batch. -/
def sharedKeys (preferences : List Preference) : List SharedKey :=
  (checkBatch preferences).sharedKeys

end Preference

end PrefAccessors
