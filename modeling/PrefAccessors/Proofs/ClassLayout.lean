import PrefAccessors.Wrapper.ClassFile

/-! # The layout of class files

A class file has a head, the text of each of its methods, and a closing brace. The
head leads to depth one and the methods keep that depth, so every method has the
same text wherever it stands. The head depends on the preferences of the group only
through whether one of them is a set of strings. Further preferences therefore add
their own methods at the end and change nothing before them.
-/

namespace PrefAccessors.Wrapper

/-! ## Steps one after the other -/

/-- The depth that steps lead to. -/
def depthAfterSteps (depth : Nat) (steps : List Step) : Nat := steps.foldl Step.depthAfter depth

theorem depthAfterSteps_append (depth : Nat) (first second : List Step) :
    depthAfterSteps depth (first ++ second) =
      depthAfterSteps (depthAfterSteps depth first) second :=
  List.foldl_append

/-- Later steps are laid out at the depth that the earlier ones lead to. -/
theorem stepTexts_append (indent depth : Nat) (first second : List Step) :
    stepTexts indent depth (first ++ second) =
      stepTexts indent depth first ++ stepTexts indent (depthAfterSteps depth first) second := by
  induction first generalizing depth with
  | nil => rfl
  | cons step rest ih =>
    rw [List.cons_append, stepTexts, ih, stepTexts, List.cons_append]
    rfl

/-- Steps that lead back to the depth at which they begin. -/
def IsLevel (steps : List Step) : Prop := ∀ depth, depthAfterSteps depth steps = depth

/-- Whether the step neither opens nor closes a block. -/
def Step.isFlat : Step → Bool
  | openBlock _ | closeBlock => false
  | _ => true

theorem Step.depthAfter_of_isFlat {step : Step} (hflat : step.isFlat) (depth : Nat) :
    step.depthAfter depth = depth := by
  cases step with
  | openBlock | closeBlock => cases hflat
  | _ => rfl

theorem IsLevel.of_isFlat {steps : List Step} (hflat : ∀ step ∈ steps, step.isFlat) :
    IsLevel steps := by
  intro depth
  induction steps with
  | nil => rfl
  | cons step rest ih =>
    rw [List.forall_mem_cons] at hflat
    rw [depthAfterSteps, List.foldl_cons, Step.depthAfter_of_isFlat hflat.1]
    exact ih hflat.2

theorem IsLevel.append {first second : List Step} (hfirst : IsLevel first)
    (hsecond : IsLevel second) : IsLevel (first ++ second) := by
  intro depth
  rw [depthAfterSteps_append, hfirst, hsecond]

/-- A block closes at the depth at which it opens, whatever level steps it holds. -/
theorem IsLevel.block {steps : List Step} (hsteps : IsLevel steps) (header : String) :
    IsLevel (.openBlock header :: (steps ++ [.closeBlock])) := by
  intro depth
  change depthAfterSteps (depth + 1) (steps ++ [.closeBlock]) = depth
  rw [depthAfterSteps_append, hsteps]
  rfl

/-! ## Methods -/

/-- The text of methods inside a class. An empty line stands before each of them. -/
def methodsText (indent : Nat) (methods : List Method) : String :=
  String.join (methods.map fun method => "\n" ++ (Step.method method).render indent 1)

theorem methodsText_append (indent : Nat) (first second : List Method) :
    methodsText indent (first ++ second) =
      methodsText indent first ++ methodsText indent second := by
  rw [methodsText, List.map_append, String.join_append]
  rfl

theorem render_blank (indent depth : Nat) : Step.blank.render indent depth = "\n" := by
  simp [Step.render, Step.lines, renderLines, Line.render, String.join_cons]

/-- The steps of methods keep the depth, so each method is laid out at depth one. -/
theorem join_stepTexts_methods (indent : Nat) (methods : List Method) (rest : List Step) :
    String.join (stepTexts indent 1
        (methods.flatMap (fun method => [.blank, .method method]) ++ rest)) =
      methodsText indent methods ++ String.join (stepTexts indent 1 rest) := by
  induction methods with
  | nil => simp [methodsText]
  | cons method methods ih =>
    have hblank : Step.blank.depthAfter 1 = 1 := rfl
    have hmethod : (Step.method method).depthAfter 1 = 1 := rfl
    simp only [List.flatMap_cons, List.cons_append, List.nil_append, stepTexts, hblank, hmethod,
      String.join_cons, ih, render_blank]
    simp only [methodsText, List.map_cons, String.join_cons, String.append_assoc]

theorem classMethods_append (settings : Settings) (group : PreferenceGroup)
    (more : List Preference) :
    classMethods settings { group with preferences := group.preferences ++ more } =
      classMethods settings group ++ classMethods settings { group with preferences := more } :=
  List.flatMap_append

/-! ## The head of a class -/

/-- The steps before the methods. -/
def headSteps (settings : Settings) (group : PreferenceGroup) : List Step :=
  preludeSteps settings group ++ (group.description?.map Step.javadoc).toList ++
    [.openBlock ("public class " ++ group.name)] ++ fieldSteps settings group

/-- The text before the methods. -/
def classHead (settings : Settings) (group : PreferenceGroup) : String :=
  renderSteps settings.indent (headSteps settings group)

/-- The last line of a class. -/
def classEnd : String := "\x7d\n"

/-- What the head of a class takes from a group. -/
structure Outline where
  name : String
  package? : Option String
  description? : Option String
  editorMode : EditorMode
  holdsSets : Bool
  deriving DecidableEq, Repr

def outline (group : PreferenceGroup) : Outline where
  name := group.name
  package? := group.package?
  description? := group.description?
  editorMode := group.editorMode
  holdsSets := group.usesType .stringSet

theorem classHead_congr (settings : Settings) {first second : PreferenceGroup}
    (hsame : outline first = outline second) :
    classHead settings first = classHead settings second := by
  simp only [outline, Outline.mk.injEq] at hsame
  obtain ⟨hname, hpackage, hdescription, hmode, hsets⟩ := hsame
  have himports : classImports settings first = classImports settings second := by
    rw [classImports, hsets, classImports]
  have hprelude : preludeSteps settings first = preludeSteps settings second := by
    rw [preludeSteps, himports, classPackage?, hpackage, preludeSteps, classPackage?]
  have hfields : fieldSteps settings first = fieldSteps settings second := by
    rw [fieldSteps, hmode, hname, fieldSteps]
  rw [classHead, headSteps, hprelude, hdescription, hname, hfields, classHead, headSteps]

theorem preludeSteps_isLevel (settings : Settings) (group : PreferenceGroup) :
    IsLevel (preludeSteps settings group) := by
  apply IsLevel.of_isFlat
  intro step hstep
  simp only [preludeSteps, List.mem_append, List.mem_map] at hstep
  rcases hstep with ((hheader | hpackage) | ⟨_, _, rfl⟩) | hblank
  · split at hheader
    next => rw [List.mem_singleton.mp hheader]; rfl
    next => cases hheader
  · split at hpackage
    next =>
      simp only [List.mem_cons, List.not_mem_nil, or_false] at hpackage
      rcases hpackage with rfl | rfl <;> rfl
    next => cases hpackage
  · rfl
  · split at hblank
    next => cases hblank
    next => rw [List.mem_singleton.mp hblank]; rfl

theorem fieldSteps_isLevel (settings : Settings) (group : PreferenceGroup) :
    IsLevel (fieldSteps settings group) := by
  have hstatements (text : String × String → String) :
      IsLevel ((classFields settings group.editorMode).map fun field => .statement (text field)) := by
    apply IsLevel.of_isFlat
    intro step hstep
    obtain ⟨_, _, rfl⟩ := List.mem_map.mp hstep
    rfl
  have hblank : IsLevel [.blank] := IsLevel.of_isFlat (by simp [Step.isFlat])
  have hconstructor := (hstatements fun field => "this." ++ field.2 ++ " = " ++ field.2).block
  have hfields := hstatements fun field => "private final " ++ field.1 ++ " " ++ field.2
  simpa [fieldSteps] using (hfields.append hblank).append (hconstructor _)

/-- The methods stand one level deep in the class. -/
theorem depthAfterSteps_headSteps (settings : Settings) (group : PreferenceGroup) :
    depthAfterSteps 0 (headSteps settings group) = 1 := by
  have hdescription : IsLevel (group.description?.map Step.javadoc).toList := by
    apply IsLevel.of_isFlat
    cases group.description? <;> simp [Step.isFlat]
  rw [headSteps, depthAfterSteps_append, depthAfterSteps_append,
    (preludeSteps_isLevel settings group).append hdescription]
  exact fieldSteps_isLevel settings group 1

/-! ## The whole class -/

theorem classText_eq (settings : Settings) (group : PreferenceGroup) :
    classText settings group =
      classHead settings group ++ methodsText settings.indent (classMethods settings group) ++
        classEnd := by
  have hsteps : classSteps settings group = headSteps settings group ++
      ((classMethods settings group).flatMap (fun method => [.blank, .method method]) ++
        [.closeBlock]) := by
    simp [classSteps, headSteps]
  have hend : String.join (stepTexts settings.indent 1 [.closeBlock]) = classEnd := by
    simp [stepTexts, Step.render, Step.lines, renderLines, closingLine, Line.render,
      String.join_cons, classEnd]
  rw [classText, renderSteps, hsteps, stepTexts_append, depthAfterSteps_headSteps,
    String.join_append, join_stepTexts_methods, hend, String.append_assoc]
  rfl

theorem outline_append {group : PreferenceGroup} {more : List Preference}
    (hsets : group.usesType .stringSet ∨
      ∀ preference ∈ more, preference.valueType ≠ .stringSet) :
    outline { group with preferences := group.preferences ++ more } = outline group := by
  have huses : PreferenceGroup.usesType
      { group with preferences := group.preferences ++ more } .stringSet =
        group.usesType .stringSet := by
    unfold PreferenceGroup.usesType at hsets ⊢
    rw [List.any_append]
    rcases hsets with hsets | hnone
    · rw [hsets, Bool.true_or]
    · have hmore : (more.any fun preference => preference.valueType == .stringSet) = false := by
        simpa using hnone
      rw [hmore, Bool.or_false]
  rw [outline, huses, outline]

/-- The source of a class is its head, then the text of each method at depth one after an empty
line, then a closing brace. The head depends on the outline of the group alone. Further
preferences insert their own methods before the closing brace, unless they bring the first set of
strings into the class. -/
theorem classSource?_of_isIdentifier (settings : Settings) {group : PreferenceGroup}
    (hname : Name.isIdentifier group.name) :
    classSource? settings group = some (classHead settings group ++
      methodsText settings.indent (classMethods settings group) ++ classEnd) ∧
    (∀ other, outline other = outline group →
      classHead settings other = classHead settings group) ∧
    ∀ more : List Preference,
      (group.usesType .stringSet ∨ ∀ preference ∈ more, preference.valueType ≠ .stringSet) →
        ∃ body, classSource? settings group = some (body ++ classEnd) ∧
          classSource? settings { group with preferences := group.preferences ++ more } =
            some (body ++ methodsText settings.indent
              (classMethods settings { group with preferences := more }) ++ classEnd) := by
  have hsource : ∀ preferences, classSource? settings { group with preferences := preferences } =
      some (classText settings { group with preferences := preferences }) :=
    fun _ => if_pos hname
  refine ⟨(hsource group.preferences).trans (congrArg some (classText_eq settings group)),
    fun other hsame => classHead_congr settings hsame, fun more hsets => ?_⟩
  refine ⟨classHead settings group ++ methodsText settings.indent (classMethods settings group),
    (hsource group.preferences).trans (congrArg some (classText_eq settings group)), ?_⟩
  rw [hsource, classText_eq, classHead_congr settings (outline_append hsets),
    classMethods_append, methodsText_append, ← String.append_assoc]

/-- A group whose class needs the import for sets of strings. -/
def playlistGroup : PreferenceGroup := {
  name := "Playlist"
  editorMode := .chained "Editor"
  preferences := [Preference.resolve { name := "tracks", type? := some .stringSet } none none] }

def addedPreferences : List Preference := [
  Preference.resolve { name := "volume", type? := some .float, default? := some "0.5f" } none none,
  Preference.resolve { name := "moods", type? := some .stringSet } none none]

theorem classSource?_of_playlistGroup :
    Name.isIdentifier playlistGroup.name ∧ playlistGroup.usesType .stringSet ∧
      ∃ body, classSource? {} playlistGroup = some (body ++ classEnd) ∧
        classSource? {} { playlistGroup with
          preferences := playlistGroup.preferences ++ addedPreferences } =
            some (body ++ methodsText 4 (classMethods {} { playlistGroup with
              preferences := addedPreferences }) ++ classEnd) := by
  have hname : Name.isIdentifier playlistGroup.name := by decide
  have hsets : playlistGroup.usesType .stringSet := by decide
  obtain ⟨_, _, hmore⟩ := classSource?_of_isIdentifier {} hname
  exact ⟨hname, hsets, hmore addedPreferences (Or.inl hsets)⟩

end PrefAccessors.Wrapper
