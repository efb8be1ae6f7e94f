import PrefAccessors.Generation.Files

/-! # Command line

Without arguments the classes of a built-in document are printed. With a
declaration file its classes are printed, and with a directory as well they are
written there. An error prints nothing.
-/

namespace PrefAccessors.CommandLine

open Wrapper

/-- The document that is used without arguments. -/
def builtInDocument : String := "<declarations>
    <preferences name=\"UserSettings\" package=\"com.example.settings\" defaultType=\"string\">
        <entry name=\"dark_mode\" type=\"boolean\" default=\"false\"/>
        <entry name=\"username\" key=\"pref_username\"/>
        <entry name=\"MAX_RETRY_COUNT\" type=\"integer\" default=\"3\"/>
        <entry name=\"favorite_tags\" type=\"string_set\"/>
    </preferences>
    <preferences name=\"SessionEditor\" package=\"com.example.settings\"
                 editor=\"chained\" editorType=\"SharedPreferences.Editor\">
        <entry name=\"last_sync\" type=\"long\"/>
        <entry name=\"notifications\" type=\"boolean\" booleanPrefix=\"has\"/>
    </preferences>
</declarations>"

def settings : Settings := Settings.addImport {} "android.content.SharedPreferences"

/-- What the command is asked to do, with the file that it is given. -/
inductive Request
  | printBuiltIn
  | printFile (input : InputFile)
  | writeFiles (input : InputFile)

/-- What the command does: its exit code, what it prints, and the directory that it creates.
An error is kept for the message on the error output. -/
structure Outcome where
  exitCode : Nat
  output : String
  directory? : Option Directory
  error? : Option GenerationError

/-- The outcome of an error. -/
def Outcome.failure (error : GenerationError) : Outcome := ⟨1, "", none, some error⟩

/-- The outcome of printing a text. -/
def Outcome.printing (text : Except GenerationError String) : Outcome :=
  match text with
  | .ok output => ⟨0, output, none, none⟩
  | .error error => failure error

def run : Request → Outcome
  | .printBuiltIn => .printing (generateText settings builtInDocument).result
  | .printFile input => .printing (generateTextFromFile settings input)
  | .writeFiles input =>
    let outcome := generateIntoDirectory settings input
    match outcome.written with
    | .ok written =>
      ⟨0, "Generated " ++ toString written.length ++ " file(s)\n", outcome.directory?, none⟩
    | .error error => .failure error

end PrefAccessors.CommandLine
