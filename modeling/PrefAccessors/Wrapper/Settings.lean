/-! # Settings for wrapper classes -/

namespace PrefAccessors.Wrapper

/-- The settings that all classes of a run share. A package set here replaces the packages
that groups declare. -/
structure Settings where
  package? : Option String := none
  backendType : String := "SharedPreferences"
  backendField : String := "backend"
  editorField : String := "editor"
  indent : Nat := 4
  imports : List String := []
  header : Bool := true
  deriving DecidableEq, Repr

/-- The settings with another import. -/
def Settings.addImport (settings : Settings) (name : String) : Settings :=
  { settings with imports := settings.imports ++ [name] }

end PrefAccessors.Wrapper
