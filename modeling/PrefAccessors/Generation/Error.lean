import PrefAccessors.Declaration.Error
import PrefAccessors.Resolution.PreferenceGroup

/-! # Errors of generation

Why no classes are generated from a declaration file: the file cannot be used,
the document cannot be read, a group has problems, or a class cannot be made.
-/

namespace PrefAccessors

/-- Why a declaration file gives no text. -/
inductive FileFault
  | missing
  | notUtf8
  deriving DecidableEq, Repr

/-- The message of a file fault, as reading a file into a string reports it. -/
def FileFault.message : FileFault → String
  | missing => "No such file or directory (os error 2)"
  | notUtf8 => "stream did not contain valid UTF-8"

/-- Why a resolved group yields no class. -/
inductive GenerationFault
  | duplicateGroup (group : String)
  | invalidClassName (group : String)
  | reported (message : String)
  deriving DecidableEq, Repr

/-- The message of a generation fault. -/
def GenerationFault.message : GenerationFault → String
  | duplicateGroup group => "duplicate preferences group '" ++ group ++ "'"
  | invalidClassName group => "group name '" ++ group ++ "' is not a valid class name"
  | reported message => message

/-- Why a run yields no classes. -/
inductive GenerationError
  | file (fault : FileFault)
  | declaration (error : DeclarationError)
  | resolution (error : ResolutionError)
  | generation (fault : GenerationFault)
  deriving DecidableEq, Repr

/-- The message of an error. -/
def GenerationError.message : GenerationError → String
  | file fault => "IO error: " ++ fault.message
  | declaration error => "declaration parse error: " ++ error.message
  | resolution error => error.message
  | generation fault => "generation error: " ++ fault.message

end PrefAccessors
