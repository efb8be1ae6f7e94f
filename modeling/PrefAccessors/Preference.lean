import PrefAccessors.Name
import PrefAccessors.ValueType

/-! # Preferences

A preference has everything that its accessors need: the key in the store, the
name from which the accessors are named, the type of its values, and the default.
What a declaration leaves open is filled in when it is resolved.
-/

namespace PrefAccessors

/-- A declared preference whose type is read but whose open parts are not filled in. -/
structure TypedEntry where
  name : String
  type? : Option ValueType := none
  default? : Option String := none
  booleanPrefix? : Option String := none
  deriving DecidableEq, Repr

/-- A preference with all its parts. The default is the text of a Java expression, and only
boolean preferences have a prefix for their getters. -/
structure Preference where
  field : String
  key : String
  accessor : String
  valueType : ValueType
  default? : Option String := none
  booleanPrefix? : Option String := none
  description? : Option String := none
  deriving DecidableEq, Repr

namespace Preference

/-- The getter prefix of boolean preferences that declare none. -/
def defaultBooleanPrefix : String := "is"

/-- Fills in the open parts of an entry. Its own type comes before the default of its group
and that before `string`; its key is its name unless another one is given. -/
def resolve (entry : TypedEntry) (groupDefault? : Option ValueType) (key? : Option String) :
    Preference :=
  let valueType := (entry.type? <|> groupDefault?).getD .string
  { field := entry.name
    key := key?.getD entry.name
    accessor := Name.camelCase entry.name
    valueType := valueType
    default? := entry.default?
    booleanPrefix? :=
      if valueType.isBoolean then some (entry.booleanPrefix?.getD defaultBooleanPrefix)
      else none }

/-- What stands in front of the accessor name in the names of getters. -/
def getterPrefix (preference : Preference) : String := preference.booleanPrefix?.getD "get"

/-- The accessor name as it stands inside the names of methods. -/
def capitalizedAccessor (preference : Preference) : String := Name.capitalize preference.accessor

def getterName (preference : Preference) : String :=
  preference.getterPrefix ++ preference.capitalizedAccessor

def setterName (preference : Preference) : String := "set" ++ preference.capitalizedAccessor

end Preference

end PrefAccessors
