import PrefAccessors.Text.Blank

/-! # Value types

The closed catalog of types that a preference can hold. Each type has a name for
messages, a spelling for declarations, the suffix of the store methods that read
and write it, and the Java type in which its values appear.
-/

namespace PrefAccessors

/-- The type of the values of a preference. -/
inductive ValueType
  | boolean
  | float
  | integer
  | long
  | string
  | stringSet
  deriving DecidableEq, Repr

namespace ValueType

/-- The catalog in its order of presentation. -/
def all : List ValueType := [boolean, float, integer, long, string, stringSet]

/-- The name of the type in messages. -/
def displayName : ValueType → String
  | boolean => "boolean"
  | float => "float"
  | integer => "int"
  | long => "long"
  | string => "string"
  | stringSet => "set-of-string"

/-- What follows `get` and `put` in the names of the store methods for the type. -/
def storeSuffix : ValueType → String
  | boolean => "Boolean"
  | float => "Float"
  | integer => "Int"
  | long => "Long"
  | string => "String"
  | stringSet => "StringSet"

/-- The preferred spelling of the type in declarations. -/
def spelling : ValueType → String
  | boolean => "boolean"
  | float => "float"
  | integer => "integer"
  | long => "long"
  | string => "string"
  | stringSet => "string_set"

def javaType : ValueType → String
  | boolean => "boolean"
  | float => "float"
  | integer => "int"
  | long => "long"
  | string => "String"
  | stringSet => "Set<String>"

/-- Every spelling that declarations may use, in lower case, with its type. -/
def spellings : List (String × ValueType) := [
  ("boolean", boolean), ("bool", boolean),
  ("float", float),
  ("integer", integer), ("int", integer),
  ("long", long),
  ("string", string),
  ("string_set", stringSet), ("stringset", stringSet), ("set-of-string", stringSet)]

/-- Reads a spelling. Blank characters around it and the case of ASCII letters make no
difference. -/
def ofSpelling? (written : String) : Option ValueType :=
  spellings.lookup (String.ofList ((Text.trim written.toList).map Char.toLower))

/-- Getters of boolean preferences have a prefix that declarations can choose. -/
def isBoolean (type : ValueType) : Bool := type == boolean

end ValueType

end PrefAccessors
