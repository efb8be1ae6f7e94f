import PrefAccessors.Declaration.Reading
import PrefAccessors.Generation.Error
import PrefAccessors.Wrapper.ClassFile

/-! # Runs

A run generates the classes of a document and logs what it does. The groups are
taken in the order of the document, and the first error ends the run. A group is
checked for a repeated name before it is resolved, and for a name that can name a
class after that. The log holds everything up to the end of the run.
-/

namespace PrefAccessors

open Wrapper

/-- What a run can log. -/
inductive LogEvent
  | documentRead (groups : Nat)
  | preferenceResolved (field key : String) (type : ValueType)
  | keyShared (sharing : SharedKey)
  | groupResolved (group : String) (preferences : Nat)
  | classGenerated (group : String) (preferences bytes : Nat)
  deriving DecidableEq, Repr

/-- The log of a run and its result. -/
structure Run (α : Type) where
  log : List LogEvent
  result : Except GenerationError α

/-- The run with more events logged before it. -/
def Run.after {α : Type} (log : List LogEvent) (run : Run α) : Run α :=
  ⟨log ++ run.log, run.result⟩

/-- The run with another result if it succeeds. -/
def Run.map {α β : Type} (change : α → β) (run : Run α) : Run β :=
  ⟨run.log, run.result.map change⟩

/-- A file with the source of a class. -/
structure SourceFile where
  name : String
  source : String
  deriving DecidableEq, Repr

/-- What is logged while the preferences of a group are resolved and checked. -/
def Group.resolutionLog (group : Group) : List LogEvent :=
  (group.preferences.map fun preference =>
    .preferenceResolved preference.field preference.key preference.valueType) ++
    (Preference.sharedKeys group.preferences).map .keyShared

/-- Generates the class of a resolved group. -/
def PreferenceGroup.generate (settings : Settings) (group : PreferenceGroup) : Run SourceFile :=
  match classSource? settings group with
  | none => ⟨[], .error (.generation (.invalidClassName group.name))⟩
  | some source =>
    ⟨[.classGenerated group.name group.preferences.length source.utf8ByteSize],
      .ok ⟨classFileName group.name, source⟩⟩

/-- Resolves a group and generates its class. -/
def Group.generate (settings : Settings) (group : Group) : Run SourceFile :=
  Run.after group.resolutionLog <|
    match group.resolve with
    | .error error => ⟨[], .error (.resolution error)⟩
    | .ok resolved =>
      (resolved.generate settings).after [.groupResolved resolved.name resolved.preferences.length]

/-- Generates the classes of groups that follow groups with the given names. -/
def generateGroups (settings : Settings) (earlier : List String) :
    List Group → Run (List SourceFile)
  | [] => ⟨[], .ok []⟩
  | group :: rest =>
    if group.name ∈ earlier then ⟨[], .error (.generation (.duplicateGroup group.name))⟩
    else
      let run := group.generate settings
      match run.result with
      | .error error => ⟨run.log, .error error⟩
      | .ok file =>
        ((generateGroups settings (group.name :: earlier) rest).map (file :: ·)).after run.log

/-- Generates the classes of a document. -/
def generateFiles (settings : Settings) (document : String) : Run (List SourceFile) :=
  match readDeclarations document with
  | .error error => ⟨[], .error (.declaration error)⟩
  | .ok groups => (generateGroups settings [] groups).after [.documentRead groups.length]

/-- The text with the source of another file behind it, and a line break between the two unless
there is no text yet. -/
def appendSource (text : String) (file : SourceFile) : String :=
  (if text.isEmpty then text else text.push '\n') ++ file.source

/-- The sources of files as one text. -/
def joinSources (files : List SourceFile) : String := files.foldl appendSource ""

/-- Generates the classes of a document as one text. -/
def generateText (settings : Settings) (document : String) : Run String :=
  (generateFiles settings document).map joinSources

end PrefAccessors
