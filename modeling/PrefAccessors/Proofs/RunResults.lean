import Mathlib.Data.List.Forall2
import PrefAccessors.Generation.Run
import PrefAccessors.Proofs.Resolved
import PrefAccessors.Proofs.Sequencing

/-! # Results of runs

A run takes the groups of a document one after the other, and every group is
checked in up to three ways: against the names before it, by resolution, and for
its name. The law of one group says what comes of it after others. From it follow
which runs give all classes and with which error another run ends.
-/

namespace PrefAccessors

open Wrapper

namespace Group

/-- Whether a class can be generated from the group alone. -/
def IsGenerable (group : Group) : Prop :=
  (∃ resolved, group.resolve = .ok resolved) ∧ Name.isIdentifier group.name

/-- The class file of a group. -/
def HasClass (settings : Settings) (group : Group) (file : SourceFile) : Prop :=
  Name.isIdentifier group.name ∧
    ∃ resolved, group.resolve = .ok resolved ∧
      file = ⟨classFileName group.name, classText settings resolved⟩

/-- The error of a group that follows groups with the given names. A name that is there already
comes before the problems of the group, and these come before a name that can name no class. -/
inductive FailsAfter (earlier : List String) (group : Group) : GenerationError → Prop
  | repeated (hname : group.name ∈ earlier) :
    FailsAfter earlier group (.generation (.duplicateGroup group.name))
  | unresolved {error : ResolutionError} (hnew : group.name ∉ earlier)
    (hresolve : group.resolve = .error error) : FailsAfter earlier group (.resolution error)
  | misnamed {resolved : PreferenceGroup} (hnew : group.name ∉ earlier)
    (hresolve : group.resolve = .ok resolved) (hname : ¬ Name.isIdentifier group.name) :
    FailsAfter earlier group (.generation (.invalidClassName group.name))

/-- What comes of a group that follows groups with the given names. -/
def classAfter (settings : Settings) (earlier : List String) (group : Group) :
    Except GenerationError SourceFile :=
  if group.name ∈ earlier then .error (.generation (.duplicateGroup group.name))
  else (group.generate settings).result

section

variable {settings : Settings} {group : Group} {earlier : List String} {file : SourceFile}
  {error : GenerationError}

theorem isGenerable_iff (settings : Settings) :
    group.IsGenerable ↔ ∃ file, group.HasClass settings file := by
  constructor
  · rintro ⟨⟨resolved, hresolve⟩, hname⟩
    exact ⟨_, hname, resolved, hresolve, rfl⟩
  · rintro ⟨_, hname, resolved, hresolve, _⟩
    exact ⟨⟨resolved, hresolve⟩, hname⟩

theorem result_generate_of_resolve {resolved : PreferenceGroup}
    (hresolve : group.resolve = .ok resolved) :
    (group.generate settings).result =
      if Name.isIdentifier group.name then
        .ok ⟨classFileName group.name, classText settings resolved⟩
      else .error (.generation (.invalidClassName group.name)) := by
  have hname := name_of_resolve hresolve
  rw [generate, hresolve]
  change (resolved.generate settings).result = _
  by_cases hidentifier : Name.isIdentifier group.name
  · rw [PreferenceGroup.generate, classSource?, hname, if_pos hidentifier, if_pos hidentifier]
  · rw [PreferenceGroup.generate, classSource?, hname, if_neg hidentifier, if_neg hidentifier]

theorem HasClass.classAfter_eq (hclass : group.HasClass settings file)
    (hnew : group.name ∉ earlier) : group.classAfter settings earlier = .ok file := by
  obtain ⟨hname, resolved, hresolve, rfl⟩ := hclass
  rw [classAfter, if_neg hnew, result_generate_of_resolve hresolve, if_pos hname]

theorem FailsAfter.classAfter_eq (hfails : group.FailsAfter earlier error) :
    group.classAfter settings earlier = .error error := by
  cases hfails with
  | repeated hname => rw [classAfter, if_pos hname]
  | unresolved hnew hresolve =>
    rw [classAfter, if_neg hnew, generate, hresolve]
    rfl
  | misnamed hnew hresolve hname =>
    rw [classAfter, if_neg hnew, result_generate_of_resolve hresolve, if_neg hname]

/-- A group has a class or an error, whatever comes before it. -/
theorem hasClass_or_failsAfter (settings : Settings) (earlier : List String) (group : Group) :
    (group.name ∉ earlier ∧ ∃ file, group.HasClass settings file) ∨
      ∃ error, group.FailsAfter earlier error := by
  by_cases hnew : group.name ∈ earlier
  · exact Or.inr ⟨_, .repeated hnew⟩
  cases hresolve : group.resolve with
  | error error => exact Or.inr ⟨_, .unresolved hnew hresolve⟩
  | ok resolved =>
    by_cases hname : Name.isIdentifier group.name
    · exact Or.inl ⟨hnew, _, hname, resolved, hresolve, rfl⟩
    · exact Or.inr ⟨_, .misnamed hnew hresolve hname⟩

theorem classAfter_eq_ok_iff :
    group.classAfter settings earlier = .ok file ↔
      group.name ∉ earlier ∧ group.HasClass settings file := by
  constructor
  · intro heq
    rcases hasClass_or_failsAfter settings earlier group with ⟨hnew, other, hclass⟩ | ⟨_, hfails⟩
    · obtain rfl := Except.ok.inj ((hclass.classAfter_eq hnew).symm.trans heq)
      exact ⟨hnew, hclass⟩
    · cases hfails.classAfter_eq.symm.trans heq
  · rintro ⟨hnew, hclass⟩
    exact hclass.classAfter_eq hnew

theorem classAfter_eq_error_iff :
    group.classAfter settings earlier = .error error ↔ group.FailsAfter earlier error := by
  constructor
  · intro heq
    rcases hasClass_or_failsAfter settings earlier group with ⟨hnew, _, hclass⟩ | ⟨_, hfails⟩
    · cases (hclass.classAfter_eq hnew).symm.trans heq
    · obtain rfl := Except.error.inj (hfails.classAfter_eq.symm.trans heq)
      exact hfails
  · exact FailsAfter.classAfter_eq

theorem failsAfter_congr {first second : List String} (hsame : ∀ name, name ∈ first ↔ name ∈ second) :
    group.FailsAfter first error ↔ group.FailsAfter second error := by
  have himp (first second : List String) (hsame : ∀ name, name ∈ first ↔ name ∈ second)
      (hfails : group.FailsAfter first error) : group.FailsAfter second error := by
    cases hfails with
    | repeated hname => exact .repeated ((hsame _).mp hname)
    | unresolved hnew hresolve => exact .unresolved ((hsame _).not.mp hnew) hresolve
    | misnamed hnew hresolve hname => exact .misnamed ((hsame _).not.mp hnew) hresolve hname
  exact ⟨himp first second hsame, himp second first fun name => (hsame name).symm⟩

end

end Group

/-! ## Runs over groups -/

section

variable {settings : Settings} {earlier : List String} {groups : List Group}
  {files : List SourceFile} {error : GenerationError}

/-- The groups after one that has a class are taken with its name among the earlier ones, and
those after one that has none are not taken at all. -/
theorem result_generateGroups_cons (group : Group) (rest : List Group) :
    (generateGroups settings earlier (group :: rest)).result =
      group.classAfter settings earlier >>= fun file =>
        (generateGroups settings (group.name :: earlier) rest).result.map (file :: ·) := by
  rw [generateGroups, Group.classAfter]
  split
  · rfl
  · cases hresult : (group.generate settings).result with
    | error error => simp [hresult]
    | ok file => simp [hresult, Run.after, Run.map]

/-- A run gives a class for each group, in their order, exactly if all of them have one and their
names are new and distinct. -/
theorem generateGroups_eq_ok_iff :
    (generateGroups settings earlier groups).result = .ok files ↔
      (∀ group ∈ groups, group.name ∉ earlier) ∧ (groups.map Group.name).Nodup ∧
        List.Forall₂ (Group.HasClass settings) groups files := by
  induction groups generalizing earlier files with
  | nil => cases files <;> simp [generateGroups]
  | cons group rest ih =>
    simp only [result_generateGroups_cons, bind_eq_ok_iff, map_eq_ok_iff, ih,
      Group.classAfter_eq_ok_iff, List.map_cons, List.nodup_cons, List.mem_cons, not_or,
      forall_eq_or_imp, List.forall₂_cons_left_iff]
    constructor
    · rintro ⟨file, ⟨hnew, hclass⟩, others, ⟨hlater, hdistinct, hclasses⟩, rfl⟩
      refine ⟨⟨hnew, fun other hother => (hlater other hother).2⟩, ⟨?_, hdistinct⟩,
        file, others, hclass, hclasses, rfl⟩
      intro hmem
      obtain ⟨other, hother, hname⟩ := List.mem_map.mp hmem
      exact (hlater other hother).1 hname
    · rintro ⟨⟨hnew, hlater⟩, ⟨hnot, hdistinct⟩, file, others, hclass, hclasses, rfl⟩
      refine ⟨file, ⟨hnew, hclass⟩, others, ⟨fun other hother => ⟨?_, hlater other hother⟩,
        hdistinct, hclasses⟩, rfl⟩
      exact fun hname => hnot (hname ▸ List.mem_map_of_mem hother)

/-- Another run ends with the error of the first group that has none, and what comes after that
group makes no difference. -/
theorem generateGroups_eq_error_iff :
    (generateGroups settings earlier groups).result = .error error ↔
      ∃ before group after, groups = before ++ group :: after ∧
        (∃ files, (generateGroups settings earlier before).result = .ok files) ∧
          group.FailsAfter (before.map Group.name ++ earlier) error := by
  induction groups generalizing earlier with
  | nil => simp [generateGroups]
  | cons group rest ih =>
    rw [result_generateGroups_cons, bind_eq_error_iff, Group.classAfter_eq_error_iff]
    -- The name of the group is the last one of the earlier names there and the first one of
    -- those before the failing group here.
    have hnames (before : List Group) (name : String) :
        name ∈ before.map Group.name ++ group.name :: earlier ↔
          name ∈ (group :: before).map Group.name ++ earlier := by
      simp only [List.map_cons, List.mem_append, List.mem_cons]
      tauto
    constructor
    · rintro (hfails | ⟨file, hfile, hrest⟩)
      · exact ⟨[], group, rest, rfl, ⟨[], rfl⟩, hfails⟩
      · obtain ⟨before, failing, after, rfl, ⟨files, hfiles⟩, hfails⟩ :=
          ih.mp (map_eq_error_iff.mp hrest)
        refine ⟨group :: before, failing, after, rfl, ⟨file :: files, ?_⟩,
          (Group.failsAfter_congr (hnames before)).mp hfails⟩
        rw [result_generateGroups_cons, hfile, ok_bind, hfiles]
        rfl
    · rintro ⟨before, failing, after, heq, ⟨files, hfiles⟩, hfails⟩
      cases before with
      | nil =>
        obtain ⟨rfl, rfl⟩ := List.cons.inj heq
        exact Or.inl hfails
      | cons head before =>
        obtain ⟨rfl, rfl⟩ := List.cons.inj heq
        rw [result_generateGroups_cons, bind_eq_ok_iff] at hfiles
        obtain ⟨file, hfile, hothers⟩ := hfiles
        obtain ⟨others, hothers, -⟩ := map_eq_ok_iff.mp hothers
        exact Or.inr ⟨file, hfile, map_eq_error_iff.mpr (ih.mpr ⟨before, failing, after, rfl,
          ⟨others, hothers⟩, (Group.failsAfter_congr (hnames before)).mpr hfails⟩)⟩

theorem exists_forall₂_iff {α β : Type} {relation : α → β → Prop} {values : List α} :
    (∃ others, List.Forall₂ relation values others) ↔
      ∀ value ∈ values, ∃ other, relation value other := by
  induction values with
  | nil => simp
  | cons value rest ih =>
    rw [List.forall_mem_cons, ← ih]
    constructor
    · rintro ⟨_, hrelated⟩
      cases hrelated with
      | cons hvalue hrest => exact ⟨⟨_, hvalue⟩, _, hrest⟩
    · rintro ⟨⟨other, hvalue⟩, others, hrest⟩
      exact ⟨other :: others, .cons hvalue hrest⟩

/-- Which groups a run accepts does not depend on its settings. -/
theorem exists_generateGroups_eq_ok_iff :
    (∃ files, (generateGroups settings [] groups).result = .ok files) ↔
      (groups.map Group.name).Nodup ∧ ∀ group ∈ groups, group.IsGenerable := by
  simp only [generateGroups_eq_ok_iff, Group.isGenerable_iff settings,
    ← exists_forall₂_iff]
  simp

theorem generateGroups_append_eq_error {later : List Group}
    (herror : (generateGroups settings earlier groups).result = .error error) :
    (generateGroups settings earlier (groups ++ later)).result = .error error := by
  obtain ⟨before, group, after, rfl, haccepted, hfails⟩ := generateGroups_eq_error_iff.mp herror
  exact generateGroups_eq_error_iff.mpr
    ⟨before, group, after ++ later, by simp, haccepted, hfails⟩

end

/-! ## Runs over documents -/

section

variable {settings : Settings} {document : String} {error : GenerationError}

theorem generateFiles_eq_ok_iff {files : List SourceFile} :
    (generateFiles settings document).result = .ok files ↔
      ∃ groups, readDeclarations document = .ok groups ∧
        (generateGroups settings [] groups).result = .ok files := by
  unfold generateFiles
  cases readDeclarations document with
  | error fault => simp
  | ok groups => simp [Run.after]

theorem generateFiles_eq_error_iff :
    (generateFiles settings document).result = .error error ↔
      (∃ fault, readDeclarations document = .error fault ∧ error = .declaration fault) ∨
        ∃ groups, readDeclarations document = .ok groups ∧
          (generateGroups settings [] groups).result = .error error := by
  unfold generateFiles
  cases readDeclarations document with
  | error fault => simp [eq_comm]
  | ok groups => simp [Run.after]

theorem generateText_eq_ok_iff {text : String} :
    (generateText settings document).result = .ok text ↔
      ∃ files, (generateFiles settings document).result = .ok files ∧ joinSources files = text :=
  map_eq_ok_iff

theorem generateText_eq_error_iff :
    (generateText settings document).result = .error error ↔
      (generateFiles settings document).result = .error error :=
  map_eq_error_iff

theorem exists_generateText_eq_ok_iff :
    (∃ text, (generateText settings document).result = .ok text) ↔
      ∃ groups, readDeclarations document = .ok groups ∧ (groups.map Group.name).Nodup ∧
        ∀ group ∈ groups, group.IsGenerable := by
  constructor
  · rintro ⟨text, htext⟩
    obtain ⟨files, hfiles, _⟩ := generateText_eq_ok_iff.mp htext
    obtain ⟨groups, hread, hgroups⟩ := generateFiles_eq_ok_iff.mp hfiles
    exact ⟨groups, hread, exists_generateGroups_eq_ok_iff.mp ⟨files, hgroups⟩⟩
  · rintro ⟨groups, hread, haccepted⟩
    obtain ⟨files, hgroups⟩ := exists_generateGroups_eq_ok_iff.mpr haccepted
    have hfiles := generateFiles_eq_ok_iff.mpr ⟨groups, hread, hgroups⟩
    exact ⟨joinSources files, generateText_eq_ok_iff.mpr ⟨files, hfiles, rfl⟩⟩

theorem generateText_eq_error_iff_of_first :
    (generateText settings document).result = .error error ↔
      (∃ fault, readDeclarations document = .error fault ∧ error = .declaration fault) ∨
        ∃ before group after, readDeclarations document = .ok (before ++ group :: after) ∧
          (before.map Group.name).Nodup ∧ (∀ other ∈ before, other.IsGenerable) ∧
            group.FailsAfter (before.map Group.name) error := by
  rw [generateText_eq_error_iff, generateFiles_eq_error_iff]
  apply or_congr_right
  constructor
  · rintro ⟨groups, hread, herror⟩
    obtain ⟨before, group, after, rfl, haccepted, hfails⟩ := generateGroups_eq_error_iff.mp herror
    obtain ⟨hdistinct, hgenerable⟩ := exists_generateGroups_eq_ok_iff.mp haccepted
    rw [List.append_nil] at hfails
    exact ⟨before, group, after, hread, hdistinct, hgenerable, hfails⟩
  · rintro ⟨before, group, after, hread, hdistinct, hgenerable, hfails⟩
    rw [← List.append_nil (before.map Group.name)] at hfails
    exact ⟨_, hread, generateGroups_eq_error_iff.mpr ⟨before, group, after, rfl,
      exists_generateGroups_eq_ok_iff.mpr ⟨hdistinct, hgenerable⟩, hfails⟩⟩

/-- Groups behind those of a document on which a run fails do not change the error. -/
theorem generateText_eq_error_of_append {longer : String} {groups later : List Group}
    (hread : readDeclarations document = .ok groups)
    (hlonger : readDeclarations longer = .ok (groups ++ later))
    (herror : (generateText settings document).result = .error error) :
    (generateText settings longer).result = .error error := by
  rcases generateFiles_eq_error_iff.mp (generateText_eq_error_iff.mp herror) with
    ⟨fault, hfault, _⟩ | ⟨others, hothers, herror⟩
  · cases hread.symm.trans hfault
  · obtain rfl := Except.ok.inj (hread.symm.trans hothers)
    exact generateText_eq_error_iff.mpr (generateFiles_eq_error_iff.mpr
      (Or.inr ⟨_, hlonger, generateGroups_append_eq_error herror⟩))

/-- A document is accepted only when all of it is read, so a fault behind the last group counts
too. -/
theorem generateText_of_fault (settings : Settings) {fault : Markup.Fault}
    (hfault : (Markup.readEvents document).fault? = some fault) :
    ∃ error, (generateText settings document).result = .error (.declaration error) := by
  have hread : ∃ error, readDeclarations document = .error error := by
    unfold readDeclarations groupsOfStream
    split
    next error _ => exact ⟨error, rfl⟩
    next => rw [hfault]; exact ⟨_, rfl⟩
  obtain ⟨error, herror⟩ := hread
  exact ⟨error, generateText_eq_error_iff.mpr
    (generateFiles_eq_error_iff.mpr (Or.inl ⟨error, herror, rfl⟩))⟩

end

/-- A document gives a text exactly if it can be read, its groups have distinct names, and a class
can be generated from each of them. Otherwise the error is that of reading it, wherever in the
document it lies, or else that of the first group that fails after the names before it. Groups
that follow make no difference. -/
theorem generateText_outcome (settings : Settings) (document : String) :
    ((∃ text, (generateText settings document).result = .ok text) ↔
      ∃ groups, readDeclarations document = .ok groups ∧ (groups.map Group.name).Nodup ∧
        ∀ group ∈ groups, group.IsGenerable) ∧
    (∀ error, (generateText settings document).result = .error error ↔
      (∃ fault, readDeclarations document = .error fault ∧ error = .declaration fault) ∨
        ∃ before group after, readDeclarations document = .ok (before ++ group :: after) ∧
          (before.map Group.name).Nodup ∧ (∀ other ∈ before, other.IsGenerable) ∧
            group.FailsAfter (before.map Group.name) error) ∧
    (∀ fault, (Markup.readEvents document).fault? = some fault →
      ∃ error, (generateText settings document).result = .error (.declaration error)) ∧
    ∀ groups later longer, readDeclarations document = .ok groups →
      readDeclarations longer = .ok (groups ++ later) →
        ∀ error, (generateText settings document).result = .error error →
          (generateText settings longer).result = .error error :=
  ⟨exists_generateText_eq_ok_iff, fun _ => generateText_eq_error_iff_of_first,
    fun _ => generateText_of_fault settings,
    fun _ _ _ hread hlonger _ => generateText_eq_error_of_append hread hlonger⟩

/-- Two groups, the second of which has the name of the first one. -/
def repeatingDocument : String :=
  "<preferences name=\"Player\"></preferences><preferences name=\"Player\"></preferences>"

/-- The same groups, and a third one whose name can name no class. -/
def longerDocument : String := repeatingDocument ++ "<preferences name=\"a-b\"></preferences>"

/-- The same groups, and an end tag to which no start tag belongs. -/
def strayDocument : String := repeatingDocument ++ "</preferences>"

theorem generateText_outcome_of_repeatingDocument :
    (∃ error, (generateText {} strayDocument).result = .error (.declaration error)) ∧
      ∀ document ∈ [repeatingDocument, longerDocument],
        (generateText {} document).result = .error (.generation (.duplicateGroup "Player")) := by
  have hstray : (Markup.readEvents strayDocument).fault?.isSome := by
    rw [Markup.readEvents, strayDocument, String.toList_append]
    unfold repeatingDocument
    rw [String.toList_ofList, String.toList_ofList]
    rfl
  have hread : readDeclarations repeatingDocument =
      .ok [{ name := "Player" }, { name := "Player" }] := by
    unfold readDeclarations Markup.readEvents repeatingDocument
    rw [String.toList_ofList]
    rfl
  have hlonger : readDeclarations longerDocument =
      .ok ([{ name := "Player" }, { name := "Player" }] ++ [{ name := "a-b" }]) := by
    unfold readDeclarations Markup.readEvents longerDocument repeatingDocument
    rw [String.toList_append, String.toList_ofList, String.toList_ofList]
    rfl
  have hgenerable : Group.IsGenerable { name := "Player" } := ⟨⟨_, rfl⟩, by decide⟩
  obtain ⟨_, herror, _, hlater⟩ := generateText_outcome {} repeatingDocument
  have hrepeats := (herror _).mpr (Or.inr ⟨[{ name := "Player" }], { name := "Player" }, [], hread,
    by decide, by simpa using hgenerable, .repeated (by decide)⟩)
  obtain ⟨fault, hfault⟩ := Option.isSome_iff_exists.mp hstray
  refine ⟨(generateText_outcome {} strayDocument).2.2.1 fault hfault, ?_⟩
  simp only [List.forall_mem_cons]
  exact ⟨hrepeats, hlater _ _ _ hread hlonger _ hrepeats, nofun⟩

end PrefAccessors
