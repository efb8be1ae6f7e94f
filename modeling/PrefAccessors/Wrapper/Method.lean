import PrefAccessors.ValueType

/-! # Methods

An accessor before it is laid out: its signature, the statements of its body
without their semicolons, and the text of its documentation.
-/

namespace PrefAccessors.Wrapper

/-- What a method returns: nothing, a value of the catalog, or an object of a named type. -/
inductive ReturnType
  | void
  | value (type : ValueType)
  | named (type : String)
  deriving DecidableEq, Repr

namespace ReturnType

/-- The name of the return type in messages. -/
def displayName : ReturnType → String
  | void => "void"
  | value type => type.displayName
  | named type => type

def javaType : ReturnType → String
  | void => "void"
  | value type => type.javaType
  | named type => type

def isVoid (type : ReturnType) : Bool := type == void

end ReturnType

/-- A parameter of a method. -/
structure Parameter where
  name : String
  type : ValueType
  deriving DecidableEq, Repr

/-- A method of a wrapper class. -/
structure Method where
  name : String
  parameters : List Parameter := []
  returnType : ReturnType
  body : List String := []
  doc? : Option String := none
  deriving DecidableEq, Repr

def Method.isNullary (method : Method) : Bool := method.parameters.isEmpty

end PrefAccessors.Wrapper
