import PrefAccessors.Generation.Run

/-! # Declaration files and output directories

A declaration file exists or not, and its bytes are text only if they are valid
UTF-8. Classes can be generated from it as one text or into a directory, which
comes into being only when all classes can be generated.
-/

namespace PrefAccessors

open Wrapper

/-- The bytes of a file, if it exists. -/
abbrev InputFile := Option ByteArray

/-- The text of a file. -/
def readText (file : InputFile) : Except GenerationError String :=
  match file with
  | none => .error (.file .missing)
  | some bytes =>
    match String.fromUTF8? bytes with
    | none => .error (.file .notUtf8)
    | some text => .ok text

/-- Generates the classes of a declaration file as one text. -/
def generateTextFromFile (settings : Settings) (file : InputFile) :
    Except GenerationError String :=
  readText file >>= fun document => (generateText settings document).result

/-- The files of a directory. -/
abbrev Directory := List SourceFile

/-- The directory after a file is written, which replaces a file of the same name. -/
def Directory.write (directory : Directory) (file : SourceFile) : Directory :=
  directory.filter (fun other => other.name != file.name) ++ [file]

/-- Work on an output location, where a directory may exist or not. An error ends the work and
leaves the location as it is then. -/
abbrev OutputWork := ExceptT GenerationError (StateM (Option Directory))

/-- Creates the directory if it is missing. -/
def createDirectory : OutputWork Unit := modify fun directory? => some (directory?.getD [])

/-- Writes a file into the directory and gives its name. -/
def writeFile (file : SourceFile) : OutputWork String := do
  modify fun directory? => directory?.map (Directory.write · file)
  return file.name

/-- Generates the classes of a declaration file and writes one after the other. -/
def writeClasses (settings : Settings) (input : InputFile) : OutputWork (List String) := do
  let document ← readText input
  let files ← (generateFiles settings document).result
  createDirectory
  files.mapM writeFile

/-- The outcome of generating into a directory that does not exist yet: the names of the
written files in order, and the directory if it was created. -/
structure DirectoryOutcome where
  written : Except GenerationError (List String)
  directory? : Option Directory

/-- Generates the classes of a declaration file into a directory. -/
def generateIntoDirectory (settings : Settings) (input : InputFile) : DirectoryOutcome :=
  let (written, directory?) := (writeClasses settings input).run.run none
  ⟨written, directory?⟩

end PrefAccessors
