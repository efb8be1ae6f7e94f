import PrefAccessors.CommandLine

/-! # The command

The command of `PrefAccessors.CommandLine`, applied to real arguments and files.
-/

namespace PrefAccessors.CommandLine

/-- The bytes of the file at a path, if it can be read. -/
def readInput (path : String) : IO InputFile := do
  try
    let bytes ← IO.FS.readBinFile path
    return some bytes
  catch _ => return none

def report (outcome : Outcome) : IO UInt32 := do
  IO.print outcome.output
  if let some error := outcome.error? then
    IO.eprintln s!"Error: {error.message}"
  return UInt32.ofNat outcome.exitCode

/-- Writes the files of an outcome below a path and reports. -/
def writeAndReport (path : String) (outcome : Outcome) : IO UInt32 := do
  if let some files := outcome.directory? then
    IO.FS.createDirAll path
    for file in files do
      IO.FS.writeFile (path ++ "/" ++ file.name) file.source
  report outcome

/-- Runs the command with the arguments of the process. -/
def execute : List String → IO UInt32
  | [] => report (run .printBuiltIn)
  | [input] => do report (run (.printFile (← readInput input)))
  | input :: directory :: _ => do
    writeAndReport directory (run (.writeFiles (← readInput input)))

end PrefAccessors.CommandLine

def main (arguments : List String) : IO UInt32 :=
  PrefAccessors.CommandLine.execute arguments
