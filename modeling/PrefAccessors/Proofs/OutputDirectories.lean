import Mathlib.Data.List.Nodup
import PrefAccessors.Generation.Files
import PrefAccessors.Proofs.Identifiers
import PrefAccessors.Proofs.RunResults

/-! # Output directories

The classes of a document are either joined to one text or written into a
directory. Both ways end with the same error, and then there is no directory; or
both succeed, and the directory holds one file for each group, whose contents make
up the text. No file replaces another one and none lies outside the directory,
since the names of the groups are distinct identifiers.
-/

namespace PrefAccessors

open Wrapper

/-! ## Sources as one text -/

theorem Wrapper.Line.render_ne_empty (indent : Nat) (line : Line) : line.render indent ≠ "" := by
  unfold Line.render
  split
  · decide
  · simp [String.append_eq_empty_iff]

theorem Wrapper.Step.lines_ne_nil (depth : Nat) (step : Step) : step.lines depth ≠ [] := by
  cases step with
  | javadoc text => simp [Step.lines, javadocLines, docComment]
  | method accessor => simp [Step.lines, Method.lines]
  | _ => simp [Step.lines]

theorem Wrapper.Step.render_ne_empty (indent depth : Nat) (step : Step) :
    step.render indent depth ≠ "" := by
  obtain ⟨line, rest, hlines⟩ := List.exists_cons_of_ne_nil (step.lines_ne_nil depth)
  rw [Step.render, renderLines, hlines, List.map_cons, String.join_cons, Ne,
    String.append_eq_empty_iff]
  exact fun hempty => line.render_ne_empty indent hempty.1

theorem Wrapper.classText_ne_empty (settings : Settings) (group : PreferenceGroup) :
    classText settings group ≠ "" := by
  have hsteps : classSteps settings group ≠ [] := by simp [classSteps]
  obtain ⟨step, rest, hsteps⟩ := List.exists_cons_of_ne_nil hsteps
  rw [classText, renderSteps, hsteps, stepTexts, String.join_cons, Ne, String.append_eq_empty_iff]
  exact fun hempty => step.render_ne_empty settings.indent 0 hempty.1

/-- Once there is text, every further source is set off from it by a line break. -/
theorem foldl_appendSource {text : String} (htext : text ≠ "") (files : List SourceFile) :
    files.foldl appendSource text = "\n".intercalate (text :: files.map SourceFile.source) := by
  induction files generalizing text with
  | nil => simp
  | cons file rest ih =>
    have happend : appendSource text file = text ++ "\n" ++ file.source := by
      rw [appendSource, if_neg (by simpa using htext)]
      rfl
    have hnext : text ++ "\n" ++ file.source ≠ "" := by
      simp [String.append_eq_empty_iff]
    rw [List.foldl_cons, happend, ih hnext, List.map_cons, String.intercalate_cons_append,
      String.intercalate_cons_cons]

theorem joinSources_eq_intercalate {files : List SourceFile}
    (hsources : ∀ file ∈ files, file.source ≠ "") :
    joinSources files = "\n".intercalate (files.map SourceFile.source) := by
  cases files with
  | nil => rfl
  | cons file rest =>
    have hfirst : appendSource "" file = file.source := String.empty_append
    rw [joinSources, List.foldl_cons, hfirst,
      foldl_appendSource (hsources file List.mem_cons_self), List.map_cons]

/-! ## Work on a directory -/

section

variable {α β : Type} {work : OutputWork α} {next : α → OutputWork β}
  {before after : Option Directory}

theorem run_bind_of_ok {value : α} (hwork : work.run.run before = (.ok value, after)) :
    (work >>= next).run.run before = (next value).run.run after := by
  rw [ExceptT.run_bind, StateT.run_bind, hwork]
  rfl

theorem run_bind_of_error {error : GenerationError}
    (hwork : work.run.run before = (.error error, after)) :
    (work >>= next).run.run before = (.error error, after) := by
  rw [ExceptT.run_bind, StateT.run_bind, hwork]
  rfl

end

/-- Files are written in their order, and each adds its name to the list. -/
theorem run_mapM_writeFile (files : List SourceFile) (directory : Directory) :
    (files.mapM writeFile).run.run (some directory) =
      (.ok (files.map SourceFile.name), some (files.foldl Directory.write directory)) := by
  induction files generalizing directory with
  | nil => rfl
  | cons file rest ih =>
    have hfile : (writeFile file).run.run (some directory) =
      (.ok file.name, some (directory.write file)) := rfl
    rw [List.mapM_cons, run_bind_of_ok hfile, run_bind_of_ok (ih (directory.write file))]
    rfl

/-- Files of new and distinct names are added to those that are there. -/
theorem foldl_write {files : List SourceFile} {directory : Directory}
    (hdistinct : ((directory ++ files).map SourceFile.name).Nodup) :
    files.foldl Directory.write directory = directory ++ files := by
  induction files generalizing directory with
  | nil => simp
  | cons file rest ih =>
    have hnew : ∀ other ∈ directory, other.name ≠ file.name := by
      rw [List.map_append, List.nodup_append] at hdistinct
      intro other hother
      exact hdistinct.2.2 _ (List.mem_map_of_mem hother) _ List.mem_cons_self
    have hwrite : directory.write file = directory ++ [file] := by
      rw [Directory.write, List.filter_eq_self.mpr]
      exact fun other hother => bne_iff_ne.mpr (hnew other hother)
    rw [List.foldl_cons, hwrite, ih (by simpa using hdistinct)]
    simp

theorem readText_toUTF8 (document : String) : readText (some document.toUTF8) = .ok document := by
  have hbytes : String.fromUTF8? document.toUTF8 = some document := dif_pos document.isValidUTF8
  rw [readText, hbytes]

section

variable {settings : Settings} {document : String}

/-- What does not touch the location leaves it as it is, whether it succeeds or not. -/
theorem run_liftM {α : Type} (result : Except GenerationError α) (location : Option Directory) :
    (liftM result : OutputWork α).run.run location = (result, location) := rfl

/-- Nothing is done at the location before all classes are generated. -/
theorem run_writeClasses_of_error {error : GenerationError}
    (herror : (generateFiles settings document).result = .error error)
    (location : Option Directory) :
    (writeClasses settings (some document.toUTF8)).run.run location = (.error error, location) := by
  have hread : (liftM (readText (some document.toUTF8)) : OutputWork String).run.run location =
      (.ok document, location) := by
    rw [run_liftM, readText_toUTF8]
  have hfiles : (liftM (generateFiles settings document).result :
      OutputWork (List SourceFile)).run.run location = (.error error, location) := by
    rw [run_liftM, herror]
  rw [writeClasses, run_bind_of_ok hread, run_bind_of_error hfiles]

theorem run_writeClasses_of_ok {files : List SourceFile}
    (hfiles : (generateFiles settings document).result = .ok files)
    (location : Option Directory) :
    (writeClasses settings (some document.toUTF8)).run.run location =
      (.ok (files.map SourceFile.name),
        some (files.foldl Directory.write (location.getD []))) := by
  have hread : (liftM (readText (some document.toUTF8)) : OutputWork String).run.run location =
      (.ok document, location) := by
    rw [run_liftM, readText_toUTF8]
  have hfiles : (liftM (generateFiles settings document).result :
      OutputWork (List SourceFile)).run.run location = (.ok files, location) := by
    rw [run_liftM, hfiles]
  have hcreate : createDirectory.run.run location = (.ok (), some (location.getD [])) := rfl
  rw [writeClasses, run_bind_of_ok hread, run_bind_of_ok hfiles, run_bind_of_ok hcreate,
    run_mapM_writeFile]

end

/-! ## The files of a run -/

/-- Whether the character separates the parts of a path. -/
def isPathSeparator (char : Char) : Bool := char == '/' || char == '\\'

theorem Name.not_isPathSeparator {char : Char} (hpart : isIdentifierPart char) :
    ¬ isPathSeparator char := by
  intro hseparator
  rcases Bool.or_eq_true_iff.mp hseparator with heq | heq
  · exact absurd (eq_of_beq heq ▸ hpart) (by decide)
  · exact absurd (eq_of_beq heq ▸ hpart) (by decide)

theorem not_isPathSeparator_classFileName {name : String} (hname : Name.isIdentifier name) :
    ∀ char ∈ (classFileName name).toList, ¬ isPathSeparator char := by
  have hsuffix : ∀ char ∈ ".java".toList, ¬ isPathSeparator char := by simp [isPathSeparator]
  rw [classFileName, String.toList_append, List.forall_mem_append]
  refine ⟨fun char hmem => ?_, hsuffix⟩
  have hparts := List.all_eq_true.mp (Name.all_of_isIdentifierChars hname)
  exact Name.not_isPathSeparator (hparts char hmem)

section

variable {settings : Settings} {groups : List Group} {files : List SourceFile}

theorem map_name_of_hasClass (hclasses : List.Forall₂ (Group.HasClass settings) groups files) :
    files.map SourceFile.name = groups.map fun group => classFileName group.name := by
  induction hclasses with
  | nil => rfl
  | cons hclass _ ih =>
    obtain ⟨_, _, _, rfl⟩ := hclass
    rw [List.map_cons, List.map_cons, ih]

theorem exists_hasClass_of_mem (hclasses : List.Forall₂ (Group.HasClass settings) groups files)
    {file : SourceFile} (hmem : file ∈ files) : ∃ group : Group, group.HasClass settings file := by
  induction hclasses with
  | nil => cases hmem
  | cons hclass _ ih =>
    rcases List.mem_cons.mp hmem with rfl | hmem
    · exact ⟨_, hclass⟩
    · exact ih hmem

theorem source_ne_empty_of_mem (hclasses : List.Forall₂ (Group.HasClass settings) groups files) :
    ∀ file ∈ files, file.source ≠ "" := by
  intro file hmem
  obtain ⟨_, _, resolved, _, rfl⟩ := exists_hasClass_of_mem hclasses hmem
  exact classText_ne_empty settings resolved

/-- Groups with distinct names have their classes in distinct files. -/
theorem nodup_map_name (hdistinct : (groups.map Group.name).Nodup)
    (hclasses : List.Forall₂ (Group.HasClass settings) groups files) :
    (files.map SourceFile.name).Nodup := by
  have hinjective : Function.Injective classFileName :=
    fun _ _ heq => (String.append_left_inj ".java").mp heq
  have hnames : files.map SourceFile.name = (groups.map Group.name).map classFileName := by
    rw [map_name_of_hasClass hclasses, List.map_map]
    rfl
  exact hnames ▸ hdistinct.map hinjective

end

/-- The directory has one file for each group, in the order of the groups and under its name. The
names are distinct and lead nowhere else, and the contents of the files with line breaks between
them are the text. -/
structure Directory.Holds (directory : Directory) (groups : List Group) (text : String) : Prop where
  names : directory.map SourceFile.name = groups.map fun group => group.name ++ ".java"
  distinct : (directory.map SourceFile.name).Nodup
  plain : ∀ file ∈ directory, ∀ char ∈ file.name.toList, ¬ isPathSeparator char
  contents : "\n".intercalate (directory.map SourceFile.source) = text

theorem holds_of_hasClass {settings : Settings} {groups : List Group} {files : List SourceFile}
    (hdistinct : (groups.map Group.name).Nodup)
    (hclasses : List.Forall₂ (Group.HasClass settings) groups files) :
    Directory.Holds files groups (joinSources files) where
  names := map_name_of_hasClass hclasses
  distinct := nodup_map_name hdistinct hclasses
  plain file hmem := by
    obtain ⟨group, hname, _, _, rfl⟩ := exists_hasClass_of_mem hclasses hmem
    exact not_isPathSeparator_classFileName hname
  contents := (joinSources_eq_intercalate (source_ne_empty_of_mem hclasses)).symm

/-- Generating into a new directory and generating one text succeed together. If they fail it is
with the same error, and there is no directory; otherwise the files make up the text. -/
theorem generateIntoDirectory_outcome (settings : Settings) (document : String) :
    match (generateText settings document).result with
    | .error error =>
      generateIntoDirectory settings (some document.toUTF8) = ⟨.error error, none⟩
    | .ok text => ∃ groups directory, readDeclarations document = .ok groups ∧
      generateIntoDirectory settings (some document.toUTF8) =
        ⟨.ok (directory.map SourceFile.name), some directory⟩ ∧
      directory.Holds groups text := by
  split
  next error herror =>
    have hrun := run_writeClasses_of_error (generateText_eq_error_iff.mp herror) none
    rw [generateIntoDirectory, hrun]
  next text htext =>
    obtain ⟨files, hfiles, rfl⟩ := generateText_eq_ok_iff.mp htext
    obtain ⟨groups, hread, hgroups⟩ := generateFiles_eq_ok_iff.mp hfiles
    obtain ⟨_, hdistinct, hclasses⟩ := generateGroups_eq_ok_iff.mp hgroups
    have hholds := holds_of_hasClass hdistinct hclasses
    have hrun := run_writeClasses_of_ok hfiles none
    have hwritten : files.foldl Directory.write [] = files := foldl_write hholds.distinct
    refine ⟨groups, files, hread, ?_, hholds⟩
    rw [generateIntoDirectory, hrun]
    exact congrArg (fun directory => (⟨_, some directory⟩ : DirectoryOutcome)) hwritten

end PrefAccessors
