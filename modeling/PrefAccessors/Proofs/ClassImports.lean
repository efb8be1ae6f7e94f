import Mathlib.Data.List.Sort
import Mathlib.Data.String.Basic
import PrefAccessors.Wrapper.ClassFile

/-! # Imports of class files

The imports of a class are those of the settings, and the one for sets of strings where a
preference has that type. They stand in the order of their code points, each of them once,
whatever the order and the repetitions in the settings are. A class whose methods mention sets
of strings has the import for them, and the text of a class depends on the imports in the
settings only through the names that are imported.
-/

namespace PrefAccessors.Wrapper

/-! ## Sorted names -/

/-- The code points of a text. -/
def codePoints (text : String) : List Nat := text.toList.map Char.toNat

theorem codePoints_lt_of_lt {first second : String} (hlt : first < second) :
    codePoints first < codePoints second :=
  List.map_lt (fun _ _ hchars => hchars) hlt

theorem mem_insertName {name other : String} {names : List String} :
    other ∈ insertName name names ↔ other = name ∨ other ∈ names := by
  induction names with
  | nil => simp [insertName]
  | cons first rest ih =>
    unfold insertName
    split
    next => exact List.mem_cons
    next =>
      split
      next heq => rw [heq, List.mem_cons]; tauto
      next => rw [List.mem_cons, ih, List.mem_cons]; tauto

/-- Inserting a name keeps the names strictly increasing. -/
theorem pairwise_insertName {names : List String} (hsorted : names.Pairwise (· < ·))
    (name : String) : (insertName name names).Pairwise (· < ·) := by
  induction names with
  | nil => exact List.pairwise_singleton _ name
  | cons first rest ih =>
    obtain ⟨hfirst, hrest⟩ := List.pairwise_cons.mp hsorted
    unfold insertName
    split
    next hlt =>
      refine List.pairwise_cons.mpr ⟨fun other hother => ?_, hsorted⟩
      rcases List.mem_cons.mp hother with rfl | hother
      · exact hlt
      · exact hlt.trans (hfirst other hother)
    next hlt =>
      split
      next => exact hsorted
      next hne =>
        refine List.pairwise_cons.mpr ⟨fun other hother => ?_, ih hrest⟩
        rcases mem_insertName.mp hother with rfl | hother
        · exact lt_of_le_of_ne (not_lt.mp hlt) (Ne.symm hne)
        · exact hfirst other hother

theorem mem_sortedNames {name : String} {names : List String} :
    name ∈ sortedNames names ↔ name ∈ names := by
  induction names with
  | nil => rfl
  | cons first rest ih =>
    rw [sortedNames, List.foldr_cons, mem_insertName, List.mem_cons]
    exact or_congr_right ih

theorem pairwise_sortedNames (names : List String) : (sortedNames names).Pairwise (· < ·) := by
  induction names with
  | nil => exact List.Pairwise.nil
  | cons first rest ih => exact pairwise_insertName ih first

/-- Sorting depends on the set of names only. -/
theorem sortedNames_congr {first second : List String}
    (hsame : ∀ name, name ∈ first ↔ name ∈ second) :
    sortedNames first = sortedNames second := by
  refine (pairwise_sortedNames first).eq_of_mem_iff (pairwise_sortedNames second) fun name => ?_
  rw [mem_sortedNames, mem_sortedNames, hsame]

/-! ## What is imported -/

/-- The names that the class imports: those of the settings, and the set type where a preference
needs it. -/
def IsImported (settings : Settings) (group : PreferenceGroup) (name : String) : Prop :=
  name ∈ settings.imports ∨
    name = setImport ∧ ∃ preference ∈ group.preferences, preference.valueType = .stringSet

theorem usesType_iff {group : PreferenceGroup} {type : ValueType} :
    group.usesType type ↔ ∃ preference ∈ group.preferences, preference.valueType = type := by
  simp [PreferenceGroup.usesType]

theorem mem_importsWithSet {settings : Settings} {group : PreferenceGroup} {name : String} :
    name ∈ settings.imports ++ (if group.usesType .stringSet then [setImport] else []) ↔
      IsImported settings group name := by
  rw [List.mem_append, IsImported, ← usesType_iff]
  by_cases huses : group.usesType .stringSet <;> simp [huses]

theorem mem_classImports {settings : Settings} {group : PreferenceGroup} {name : String} :
    name ∈ classImports settings group ↔ IsImported settings group name := by
  rw [classImports, mem_sortedNames, mem_importsWithSet]

theorem pairwise_classImports (settings : Settings) (group : PreferenceGroup) :
    (classImports settings group).Pairwise (· < ·) :=
  pairwise_sortedNames _

theorem nodup_classImports (settings : Settings) (group : PreferenceGroup) :
    (classImports settings group).Nodup :=
  (pairwise_classImports settings group).nodup

/-! ## Import statements -/

/-- The name that a step imports, if it is an import statement. -/
def importedName? : Step → Option String
  | .statement text => (text.toList.dropPrefix? "import ".toList).map String.ofList
  | _ => none

/-- The names that steps import, one after the other. -/
def importedNames (steps : List Step) : List String := steps.filterMap importedName?

theorem importedName?_import (name : String) :
    importedName? (.statement ("import " ++ name)) = some name := by
  rw [importedName?, String.toList_append, List.dropPrefix?_append_of_beq _ (beq_self_eq_true _),
    Option.map_some, String.ofList_toList]

theorem importedName?_of_head {text : String} (hhead : text.toList.head? ≠ some 'i') :
    importedName? (.statement text) = none := by
  rw [importedName?, Option.map_eq_none_iff, Option.eq_none_iff_forall_not_mem]
  intro name hname
  obtain ⟨start, hstart, hmark⟩ := List.dropPrefix?_eq_some_iff.mp hname
  rw [hstart, eq_of_beq hmark] at hhead
  exact hhead rfl

theorem importedNames_append (first second : List Step) :
    importedNames (first ++ second) = importedNames first ++ importedNames second :=
  List.filterMap_append

theorem importedNames_eq_nil {steps : List Step}
    (hnone : ∀ step ∈ steps, importedName? step = none) : importedNames steps = [] :=
  List.filterMap_eq_nil_iff.mpr hnone

theorem importedNames_preludeSteps (settings : Settings) (group : PreferenceGroup) :
    importedNames (preludeSteps settings group) = classImports settings group := by
  have hheader : importedNames (if settings.header then [.line headerComment] else []) = [] := by
    split <;> rfl
  have hpackage (package : String) :
      importedNames [.statement ("package " ++ package), .blank] = [] := by
    apply importedNames_eq_nil
    simp only [List.forall_mem_cons, List.not_mem_nil, false_implies, implies_true, and_true]
    exact ⟨importedName?_of_head (by simp), rfl⟩
  have himports : importedNames ((classImports settings group).map fun name =>
      .statement ("import " ++ name)) = classImports settings group := by
    simp only [importedNames, List.filterMap_map, Function.comp_def, importedName?_import,
      List.filterMap_some]
  have hblank : importedNames (if (classImports settings group).isEmpty then [] else [.blank]) =
      [] := by
    split <;> rfl
  rw [preludeSteps, importedNames_append, importedNames_append, importedNames_append, hheader,
    himports, hblank, List.append_nil, List.nil_append]
  cases classPackage? settings group with
  | none => rfl
  | some package => rw [hpackage, List.nil_append]

theorem importedNames_fieldSteps (settings : Settings) (group : PreferenceGroup) :
    importedNames (fieldSteps settings group) = [] := by
  apply importedNames_eq_nil
  intro step hstep
  simp only [fieldSteps, List.mem_append, List.mem_map, List.mem_cons, List.not_mem_nil,
    or_false] at hstep
  rcases hstep with ((⟨field, _, rfl⟩ | rfl | rfl) | ⟨field, _, rfl⟩) | rfl
  · exact importedName?_of_head (by simp)
  · rfl
  · rfl
  · exact importedName?_of_head (by simp)
  · rfl

/-- The import statements of a class are those of its imports, in their order. -/
theorem importedNames_classSteps (settings : Settings) (group : PreferenceGroup) :
    importedNames (classSteps settings group) = classImports settings group := by
  have hdescription : importedNames (group.description?.map Step.javadoc).toList = [] := by
    cases group.description? <;> rfl
  have hmethods : importedNames ((classMethods settings group).flatMap fun method =>
      [.blank, .method method]) = [] := by
    apply importedNames_eq_nil
    intro step hstep
    obtain ⟨method, _, hstep⟩ := List.mem_flatMap.mp hstep
    rcases List.mem_pair.mp hstep with rfl | rfl <;> rfl
  have hopen : importedNames [.openBlock ("public class " ++ group.name)] = [] := rfl
  have hclose : importedNames [.closeBlock] = [] := rfl
  simp only [classSteps, importedNames_append, importedNames_preludeSteps, hdescription, hopen,
    importedNames_fieldSteps, hmethods, hclose, List.append_nil]

/-! ## Types in signatures -/

/-- The value types in the signature of a method. -/
def Method.signatureTypes (method : Method) : List ValueType :=
  (match method.returnType with
    | .value type => [type]
    | _ => []) ++ method.parameters.map Parameter.type

theorem eq_valueType_of_mem_signatureTypes {receivers : Receivers} {mode : EditorMode}
    {preference : Preference} {method : Method}
    (hmethod : method ∈ receivers.accessors mode preference) {type : ValueType}
    (htype : type ∈ method.signatureTypes) : type = preference.valueType := by
  rcases Receivers.mem_accessors_iff.mp hmethod with ⟨fallback, _, rfl⟩ | rfl | rfl
  · simpa [Method.signatureTypes, Receivers.defaultGetter] using htype
  · simpa [Method.signatureTypes, Receivers.getter] using htype
  · cases mode with
    | immediate =>
      simpa [Method.signatureTypes, Receivers.setter, Receivers.immediateSetter] using htype
    | chained editorType =>
      simpa [Method.signatureTypes, Receivers.setter, Receivers.chainedSetter] using htype

theorem exists_valueType_of_mem_signatureTypes {settings : Settings} {group : PreferenceGroup}
    {method : Method} (hmethod : method ∈ classMethods settings group) {type : ValueType}
    (htype : type ∈ method.signatureTypes) :
    ∃ preference ∈ group.preferences, preference.valueType = type := by
  obtain ⟨preference, hpreference, hmethod⟩ := List.mem_flatMap.mp hmethod
  exact ⟨preference, hpreference, (eq_valueType_of_mem_signatureTypes hmethod htype).symm⟩

theorem javaType_eq_set_iff {type : ValueType} :
    type.javaType = "Set<String>" ↔ type = .stringSet := by
  cases type <;> decide

/-! ## The whole class -/

/-- Settings that import the same names into a class give it the same text. -/
theorem classText_congr_imports {settings : Settings} {imports : List String}
    {group : PreferenceGroup}
    (hsame : ∀ name, IsImported { settings with imports := imports } group name ↔
      IsImported settings group name) :
    classText { settings with imports := imports } group = classText settings group := by
  have himports : classImports { settings with imports := imports } group =
      classImports settings group :=
    sortedNames_congr fun name =>
      mem_importsWithSet.trans ((hsame name).trans mem_importsWithSet.symm)
  rw [classText, classSteps, preludeSteps, himports]
  rfl

/-- The imports of a class are strictly increasing by code point. They are those of the settings
and, where a preference is a set of strings, the one for sets, and the class has an import statement
for each of them. A class with a method whose signature mentions sets of strings imports them once,
and settings that import the same names give the same source. -/
theorem classImports_outcome (settings : Settings) (group : PreferenceGroup) :
    ((classImports settings group).Pairwise fun first second =>
        codePoints first < codePoints second) ∧
      (∀ name, name ∈ classImports settings group ↔ IsImported settings group name) ∧
      importedNames (classSteps settings group) = classImports settings group ∧
      (∀ method ∈ classMethods settings group, ∀ type ∈ method.signatureTypes,
        type.javaType = "Set<String>" →
          (importedNames (classSteps settings group)).count "java.util.Set" = 1) ∧
      ∀ imports : List String,
        (∀ name, IsImported { settings with imports := imports } group name ↔
          IsImported settings group name) →
        classSource? { settings with imports := imports } group = classSource? settings group := by
  refine ⟨(pairwise_classImports settings group).imp codePoints_lt_of_lt,
    fun _ => mem_classImports, importedNames_classSteps settings group, ?_, ?_⟩
  · intro method hmethod type htype hset
    obtain rfl := javaType_eq_set_iff.mp hset
    have himported : IsImported settings group setImport :=
      Or.inr ⟨rfl, exists_valueType_of_mem_signatureTypes hmethod htype⟩
    rw [importedNames_classSteps]
    exact List.count_eq_one_of_mem (nodup_classImports settings group)
      (mem_classImports.mpr himported)
  · intro imports hsame
    rw [classSource?, classText_congr_imports hsame, classSource?]

/-- A group whose class needs the import for sets. -/
def tagsGroup : PreferenceGroup := {
  name := "Tags"
  preferences := [Preference.resolve { name := "tags", type? := some .stringSet } none none] }

/-- Settings with imports in another order than that of the class. -/
def storeSettings : Settings := { imports := ["org.Store", "org.Base"] }

theorem classImports_outcome_of_tagsGroup :
    (∃ method ∈ classMethods storeSettings tagsGroup,
      ∃ type ∈ method.signatureTypes, type.javaType = "Set<String>") ∧
      (importedNames (classSteps storeSettings tagsGroup)).count "java.util.Set" = 1 ∧
      classSource? { storeSettings with
          imports := ["org.Base", "java.util.Set", "org.Store", "org.Base"] } tagsGroup =
        classSource? storeSettings tagsGroup := by
  obtain ⟨_, _, _, hset, hsame⟩ := classImports_outcome storeSettings tagsGroup
  have hmentions : ∃ method ∈ classMethods storeSettings tagsGroup,
      ∃ type ∈ method.signatureTypes, type.javaType = "Set<String>" := by
    decide
  refine ⟨hmentions, ?_, hsame _ fun name => ?_⟩
  · obtain ⟨method, hmethod, type, htype, hjava⟩ := hmentions
    exact hset method hmethod type htype hjava
  · simp only [IsImported, storeSettings, tagsGroup, setImport, Preference.resolve, List.mem_cons,
      List.not_mem_nil, or_false, exists_eq_left]
    tauto

end PrefAccessors.Wrapper
