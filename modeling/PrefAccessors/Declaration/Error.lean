import PrefAccessors.Markup.Fault
import PrefAccessors.Markup.Reference

/-! # Errors of declaration documents

Why a document yields no declaration groups. The text may be faulty as markup, or
sound markup may not follow the rules for declarations.
-/

namespace PrefAccessors

/-- Why the elements of a document do not form declaration groups. -/
inductive StructureFault
  | noGroups
  | unterminatedGroup (group : String)
  | unknownEntity (entity entry : String)
  | reported (message : String)
  deriving DecidableEq, Repr

def StructureFault.message : StructureFault → String
  | noGroups => "No preferences element found"
  | unterminatedGroup group => "unterminated preferences element '" ++ group ++ "'"
  | unknownEntity entity entry => "unknown entity '&" ++ entity ++ ";' in entry '" ++ entry ++ "'"
  | reported message => message

/-- Why a document cannot be read. -/
inductive DeclarationError
  | markup (fault : Markup.Fault)
  | characterReference (fault : Markup.CharacterFault)
  | missingAttribute (element key : String)
  | invalidAttribute (element key value : String)
  | invalidStructure (fault : StructureFault)
  deriving DecidableEq, Repr

def DeclarationError.message : DeclarationError → String
  | markup fault => "XML parsing error: " ++ fault.message
  | characterReference fault =>
    "XML parsing error: invalid character reference: " ++ fault.message
  | missingAttribute element key =>
    "missing required attribute '" ++ key ++ "' on element '" ++ element ++ "'"
  | invalidAttribute element key value =>
    "invalid value '" ++ value ++ "' for attribute '" ++ key ++ "' on element '" ++
      element ++ "'"
  | invalidStructure fault => "invalid declaration structure: " ++ fault.message

end PrefAccessors
