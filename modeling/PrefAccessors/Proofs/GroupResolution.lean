import Mathlib.Data.List.Forall2
import PrefAccessors.Proofs.Resolved

/-! # What resolution accepts and reports

Resolution works in two passes. The first one reads the types and leaves out the
entries whose type is unknown, the second one checks the names of the others. The
results here speak of all entries as they are declared: which groups are accepted,
what becomes of their entries, and that no problem is reported that is not there.
-/

namespace PrefAccessors

open scoped List

/-- Two values stand in a list in this order exactly if the first is found before some occurrence
of the second. -/
theorem pair_sublist_iff {α : Type} {first second : α} {values : List α} :
    [first, second] <+ values ↔
      ∃ before after, values = before ++ second :: after ∧ first ∈ before := by
  rw [List.cons_sublist_iff]
  constructor
  · rintro ⟨front, back, rfl, hfirst, hsecond⟩
    obtain ⟨middle, after, rfl⟩ := List.append_of_mem (List.singleton_sublist.mp hsecond)
    exact ⟨front ++ middle, after, (List.append_assoc ..).symm, List.mem_append_left middle hfirst⟩
  · rintro ⟨before, after, rfl, hfirst⟩
    exact ⟨before, second :: after, rfl, hfirst, List.singleton_sublist.mpr List.mem_cons_self⟩

/-! ## The problems of a batch -/

namespace Preference

section

variable {preferences : List Preference} {first second : Preference} {problem : Problem}

/-- A problem comes from one preference, in view of those before it. -/
theorem mem_problemsAfter_iff {earlier : List Preference} :
    problem ∈ problemsAfter earlier preferences ↔
      ∃ before preference after, preferences = before ++ preference :: after ∧
        problemAfter? (earlier ++ before) preference = some problem := by
  induction preferences generalizing earlier with
  | nil => simp [problemsAfter]
  | cons first rest ih =>
    rw [problemsAfter, List.mem_append, Option.mem_toList, ih]
    constructor
    · rintro (hfirst | ⟨before, preference, after, rfl, hproblem⟩)
      · exact ⟨[], first, rest, rfl, by rwa [List.append_nil]⟩
      · refine ⟨first :: before, preference, after, rfl, ?_⟩
        rwa [List.append_assoc, List.singleton_append] at hproblem
    · rintro ⟨before, preference, after, heq, hproblem⟩
      cases before with
      | nil =>
        obtain ⟨rfl, rfl⟩ := List.cons.inj heq
        rw [List.append_nil] at hproblem
        exact Or.inl hproblem
      | cons head before =>
        obtain ⟨rfl, rfl⟩ := List.cons.inj heq
        refine Or.inr ⟨before, preference, after, rfl, ?_⟩
        rwa [List.append_assoc, List.singleton_append]

/-- A batch has no other problems than names that are no identifiers and repetitions of an
earlier accessor name. -/
theorem cause_of_mem_problems (hmem : problem ∈ problems preferences) :
    (∃ preference ∈ preferences, ¬ preference.isNameable ∧
      problem = .invalidFieldName preference.field preference.accessor) ∨
    ∃ first second, [first, second] <+ preferences ∧ first.accessor = second.accessor ∧
      problem = .duplicateAccessorName second.accessor first.field second.field := by
  rw [problems_eq_problemsAfter] at hmem
  obtain ⟨before, preference, after, rfl, hproblem⟩ := mem_problemsAfter_iff.mp hmem
  rw [List.nil_append] at hproblem
  unfold problemAfter? at hproblem
  split at hproblem
  next =>
    obtain ⟨first, hfirst, rfl⟩ := Option.map_eq_some_iff.mp hproblem
    have haccessor := List.find?_some hfirst
    exact Or.inr ⟨first, preference,
      pair_sublist_iff.mpr ⟨before, after, rfl, List.mem_of_find?_eq_some hfirst⟩,
      eq_of_beq haccessor, rfl⟩
  next hname =>
    exact Or.inl ⟨preference, List.mem_append_right before List.mem_cons_self, hname,
      (Option.some.inj hproblem).symm⟩

theorem invalidFieldName_mem_problems {preference : Preference} (hmem : preference ∈ preferences)
    (hname : ¬ preference.isNameable) :
    .invalidFieldName preference.field preference.accessor ∈ problems preferences := by
  obtain ⟨before, after, rfl⟩ := List.append_of_mem hmem
  rw [problems_eq_problemsAfter]
  refine mem_problemsAfter_iff.mpr ⟨before, preference, after, rfl, ?_⟩
  rw [problemAfter?, if_neg hname]

/-- A repetition is reported against the first preference with the accessor name, which need not
be the one at hand. -/
theorem duplicateAccessorName_mem_problems (hpair : [first, second] <+ preferences)
    (haccessor : first.accessor = second.accessor) (hname : second.isNameable) :
    ∃ earliest, .duplicateAccessorName second.accessor earliest second.field ∈
      problems preferences := by
  obtain ⟨before, after, rfl, hfirst⟩ := pair_sublist_iff.mp hpair
  obtain ⟨earliest, hearliest⟩ := Option.isSome_iff_exists.mp <|
    List.find?_isSome (p := fun other => other.accessor == second.accessor).mpr
      ⟨first, hfirst, beq_iff_eq.mpr haccessor⟩
  rw [problems_eq_problemsAfter]
  refine ⟨earliest.field, mem_problemsAfter_iff.mpr ⟨before, second, after, rfl, ?_⟩⟩
  rw [List.nil_append, problemAfter?, if_pos hname, hearliest, Option.map_some]

end

theorem isSome_booleanPrefix?_resolve (entry : TypedEntry) (groupDefault? : Option ValueType)
    (key? : Option String) :
    (resolve entry groupDefault? key?).booleanPrefix?.isSome ↔
      (resolve entry groupDefault? key?).valueType = .boolean := by
  unfold resolve
  generalize (entry.type? <|> groupDefault?).getD .string = type
  cases type <;> simp [ValueType.isBoolean]

end Preference

/-! ## Valid groups -/

/-- Whether a type spelling is absent or known. -/
def IsReadable (spelling? : Option String) : Prop :=
  ∀ spelling ∈ spelling?, (ValueType.ofSpelling? spelling).isSome

instance (spelling? : Option String) : Decidable (IsReadable spelling?) :=
  inferInstanceAs (Decidable (∀ spelling ∈ spelling?, (ValueType.ofSpelling? spelling).isSome))

/-- The accessor name that an entry asks for. -/
def Entry.accessor (entry : Entry) : String := Name.camelCase entry.name

/-- What is asked of the entries of a group. -/
structure Group.IsValid (group : Group) : Prop where
  defaultType : IsReadable group.defaultTypeSpelling?
  types : ∀ entry ∈ group.entries, IsReadable entry.typeSpelling?
  names : ∀ entry ∈ group.entries, Name.isIdentifier entry.accessor
  distinct : (group.entries.map Entry.accessor).Nodup

/-- The type that an entry of the group has: the one it spells, that which the group spells for
all, or text. -/
def Group.GivesType (group : Group) (entry : Entry) (type : ValueType) : Prop :=
  match entry.typeSpelling? <|> group.defaultTypeSpelling? with
  | some spelling => ValueType.ofSpelling? spelling = some type
  | none => type = .string

/-- What a preference keeps of the entry from which it is resolved. -/
structure Group.Declares (group : Group) (entry : Entry) (preference : Preference) : Prop where
  field : preference.field = entry.name
  accessor : preference.accessor = entry.accessor
  key : preference.key = entry.key?.getD entry.name
  valueType : group.GivesType entry preference.valueType
  default? : preference.default? = entry.default?
  description? : preference.description? = entry.description?
  booleanPrefix? : preference.booleanPrefix?.isSome ↔ preference.valueType = .boolean

/-- What a resolved group keeps of the declared one: each entry is a preference, in the same
order. -/
structure PreferenceGroup.Keeps (resolved : PreferenceGroup) (group : Group) : Prop where
  name : resolved.name = group.name
  package? : resolved.package? = group.package?
  editorMode : resolved.editorMode = group.editorMode
  description? : resolved.description? = group.description?
  preferences : List.Forall₂ group.Declares group.entries resolved.preferences

/-- What the first pass leaves of a group. -/
def Group.withKnownTypes (group : Group) : Group :=
  { group with entries := group.entries.filter Entry.hasKnownType }

/-- What a problem says about a group. -/
def Problem.IsTrueOf (group : Group) : Problem → Prop
  | .unsupportedType field spelling =>
    ValueType.ofSpelling? spelling = none ∧
      (field = Group.defaultTypeField ∧ group.defaultTypeSpelling? = some spelling ∨
        ∃ entry ∈ group.entries, field = entry.name ∧ entry.typeSpelling? = some spelling)
  | .invalidFieldName field accessor =>
    ∃ entry ∈ group.entries, field = entry.name ∧ accessor = entry.accessor ∧
      ¬ Name.isIdentifier accessor
  | .duplicateAccessorName accessor first second =>
    ∃ earlier later, [earlier, later] <+ group.entries ∧ first = earlier.name ∧
      second = later.name ∧ earlier.accessor = accessor ∧ later.accessor = accessor

theorem typeProblem?_eq_some_iff {field : String} {spelling? : Option String} {problem : Problem} :
    typeProblem? field spelling? = some problem ↔
      ∃ spelling, spelling? = some spelling ∧ ValueType.ofSpelling? spelling = none ∧
        problem = .unsupportedType field spelling := by
  cases spelling? with
  | none => simp [typeProblem?]
  | some spelling =>
    unfold typeProblem?
    cases htype : ValueType.ofSpelling? spelling <;> simp [htype, eq_comm]

theorem typeProblem?_eq_none_iff {field : String} {spelling? : Option String} :
    typeProblem? field spelling? = none ↔ IsReadable spelling? := by
  cases spelling? with
  | none => simp [typeProblem?, IsReadable]
  | some spelling =>
    cases htype : ValueType.ofSpelling? spelling <;> simp [typeProblem?, IsReadable, htype]

theorem Entry.hasKnownType_iff {entry : Entry} :
    entry.hasKnownType ↔ IsReadable entry.typeSpelling? := by
  rw [hasKnownType, Option.isNone_iff_eq_none, typeProblem?_eq_none_iff]

namespace Group

variable {group : Group}

theorem mem_typeProblems_iff {problem : Problem} :
    problem ∈ group.typeProblems ↔
      (∃ spelling, group.defaultTypeSpelling? = some spelling ∧
        ValueType.ofSpelling? spelling = none ∧
          problem = .unsupportedType defaultTypeField spelling) ∨
      ∃ entry ∈ group.entries, ∃ spelling, entry.typeSpelling? = some spelling ∧
        ValueType.ofSpelling? spelling = none ∧
          problem = .unsupportedType entry.name spelling := by
  simp only [typeProblems, List.mem_append, Option.mem_toList, List.mem_filterMap,
    typeProblem?_eq_some_iff]

/-- Once no type is unknown, no entry is left out, and validity is about the accessor names. -/
theorem problems_eq_nil_iff : group.problems = [] ↔ group.IsValid := by
  have htypes : group.typeProblems = [] ↔
      IsReadable group.defaultTypeSpelling? ∧
        ∀ entry ∈ group.entries, IsReadable entry.typeSpelling? := by
    simp only [typeProblems_eq_nil_iff, typeProblem?_eq_none_iff, Entry.hasKnownType_iff]
  have hnames (hnone : group.typeProblems = []) : Preference.problems group.preferences = [] ↔
      (∀ entry ∈ group.entries, Name.isIdentifier entry.accessor) ∧
        (group.entries.map Entry.accessor).Nodup := by
    rw [Preference.problems_eq_nil_iff, preferences_eq_map hnone, List.forall_mem_map,
      List.map_map]
    rfl
  rw [problems, List.append_eq_nil_iff]
  constructor
  · rintro ⟨hnone, hbatch⟩
    exact ⟨(htypes.mp hnone).1, (htypes.mp hnone).2, ((hnames hnone).mp hbatch).1,
      ((hnames hnone).mp hbatch).2⟩
  · intro hvalid
    have hnone := htypes.mpr ⟨hvalid.defaultType, hvalid.types⟩
    exact ⟨hnone, (hnames hnone).mpr ⟨hvalid.names, hvalid.distinct⟩⟩

theorem resolve_eq_error_iff {error : ResolutionError} :
    group.resolve = .error error ↔
      group.problems ≠ [] ∧ error = ⟨group.name, group.problems⟩ := by
  unfold resolve
  split
  next hnone => simp [List.isEmpty_iff.mp hnone]
  next hsome =>
    rw [List.isEmpty_iff] at hsome
    simp [hsome, eq_comm]

theorem exists_resolve_eq_ok_iff :
    (∃ resolved, group.resolve = .ok resolved) ↔ group.problems = [] := by
  simp only [resolve_eq_ok_iff, problems, List.append_eq_nil_iff, exists_and_left, exists_eq,
    and_true]

theorem givesType_preference (hvalid : group.IsValid) {entry : Entry}
    (hentry : entry ∈ group.entries) :
    group.GivesType entry (entry.preference group.defaultType?).valueType := by
  have hown := hvalid.types entry hentry
  have hshared := hvalid.defaultType
  change group.GivesType entry ((entry.type? <|> group.defaultType?).getD .string)
  unfold GivesType Entry.type? defaultType?
  cases hspelling : entry.typeSpelling? with
  | some spelling =>
    obtain ⟨type, htype⟩ := Option.isSome_iff_exists.mp (hown spelling hspelling)
    simp [htype]
  | none =>
    cases hdefault : group.defaultTypeSpelling? with
    | some spelling =>
      obtain ⟨type, htype⟩ := Option.isSome_iff_exists.mp (hshared spelling hdefault)
      simp [htype]
    | none => rfl

theorem declares_preference (hvalid : group.IsValid) {entry : Entry}
    (hentry : entry ∈ group.entries) :
    group.Declares entry (entry.preference group.defaultType?) where
  field := rfl
  accessor := rfl
  key := rfl
  valueType := givesType_preference hvalid hentry
  default? := rfl
  description? := rfl
  booleanPrefix? := Preference.isSome_booleanPrefix?_resolve
    ⟨entry.name, entry.type?, entry.default?, entry.booleanPrefix?⟩ group.defaultType? entry.key?

/-- The group that a valid group is resolved to keeps what is declared. -/
theorem keeps_of_resolve {resolved : PreferenceGroup} (hresolve : group.resolve = .ok resolved) :
    resolved.Keeps group := by
  have hvalid := problems_eq_nil_iff.mp (exists_resolve_eq_ok_iff.mp ⟨resolved, hresolve⟩)
  have hpreferences := preferences_of_resolve hresolve
  obtain ⟨_, _, rfl⟩ := resolve_eq_ok_iff.mp hresolve
  refine ⟨rfl, rfl, rfl, rfl, ?_⟩
  rw [hpreferences, List.forall₂_map_right_iff, List.forall₂_same]
  exact fun entry hentry => declares_preference hvalid hentry

/-- The preferences stand in the order of their entries. -/
theorem exists_pair_of_preferences {first second : Preference}
    (hpair : [first, second] <+ group.preferences) :
    ∃ earlier later, [earlier, later] <+ group.withKnownTypes.entries ∧
      earlier.preference group.defaultType? = first ∧
        later.preference group.defaultType? = second := by
  obtain ⟨pair, hentries, heq⟩ := List.sublist_map_iff.mp hpair
  obtain ⟨earlier, rest, rfl, hfirst, hrest⟩ := List.map_eq_cons_iff.mp heq.symm
  obtain ⟨later, rfl, hsecond⟩ := List.map_eq_singleton_iff.mp hrest
  exact ⟨earlier, later, hentries, hfirst, hsecond⟩

/-- The second pass speaks of what the first one leaves of the group. -/
theorem isTrueOf_withKnownTypes {problem : Problem}
    (hmem : problem ∈ Preference.problems group.preferences) :
    problem.IsTrueOf group.withKnownTypes := by
  rcases Preference.cause_of_mem_problems hmem with
    ⟨preference, hpreference, hname, rfl⟩ | ⟨first, second, hpair, haccessor, rfl⟩
  · obtain ⟨entry, hentry, rfl⟩ := List.mem_map.mp hpreference
    exact ⟨entry, hentry, rfl, rfl, hname⟩
  · obtain ⟨earlier, later, hentries, rfl, rfl⟩ := exists_pair_of_preferences hpair
    exact ⟨earlier, later, hentries, rfl, rfl, haccessor, rfl⟩

/-- Leaving entries out makes nothing true that was not true before. -/
theorem isTrueOf_of_withKnownTypes {problem : Problem}
    (htrue : problem.IsTrueOf group.withKnownTypes) : problem.IsTrueOf group := by
  cases problem with
  | unsupportedType field spelling =>
    obtain ⟨hunknown, hdefault | ⟨entry, hentry, hspelling⟩⟩ := htrue
    · exact ⟨hunknown, Or.inl hdefault⟩
    · exact ⟨hunknown, Or.inr ⟨entry, List.mem_of_mem_filter hentry, hspelling⟩⟩
  | invalidFieldName field accessor =>
    obtain ⟨entry, hentry, hname⟩ := htrue
    exact ⟨entry, List.mem_of_mem_filter hentry, hname⟩
  | duplicateAccessorName accessor first second =>
    obtain ⟨earlier, later, hpair, hnames⟩ := htrue
    exact ⟨earlier, later, hpair.trans List.filter_sublist, hnames⟩

theorem isTrueOf_of_mem_problems {problem : Problem} (hmem : problem ∈ group.problems) :
    problem.IsTrueOf group := by
  rw [problems, List.mem_append] at hmem
  rcases hmem with htype | hname
  · rcases mem_typeProblems_iff.mp htype with
      ⟨spelling, hspelling, hunknown, rfl⟩ | ⟨entry, hentry, spelling, hspelling, hunknown, rfl⟩
    · exact ⟨hunknown, Or.inl ⟨rfl, hspelling⟩⟩
    · exact ⟨hunknown, Or.inr ⟨entry, hentry, rfl, hspelling⟩⟩
  · exact isTrueOf_of_withKnownTypes (isTrueOf_withKnownTypes hname)

/-- Resolution accepts the valid groups and no others, keeps what they declare, and reports
nothing that is not so. -/
theorem resolve_outcome (group : Group) :
    ((∃ resolved, group.resolve = .ok resolved) ↔ group.IsValid) ∧
      (∀ resolved, group.resolve = .ok resolved → resolved.Keeps group) ∧
        ∀ error, group.resolve = .error error →
          error.group = group.name ∧ error.problems ≠ [] ∧
            ∀ problem ∈ error.problems, problem.IsTrueOf group := by
  refine ⟨exists_resolve_eq_ok_iff.trans problems_eq_nil_iff, fun resolved => keeps_of_resolve, ?_⟩
  intro error herror
  obtain ⟨hsome, rfl⟩ := resolve_eq_error_iff.mp herror
  exact ⟨rfl, hsome, fun problem => isTrueOf_of_mem_problems⟩

end Group

/-- An entry with a type of its own and one with the type of its group. -/
def typedGroup : Group := {
  name := "Player"
  defaultTypeSpelling? := some " Int "
  entries := [
    { name := "MUTED", typeSpelling? := some "bool", key? := some "pref.muted" },
    { name := "max_volume", default? := some "11", booleanPrefix? := some "has" }] }

/-- A group with problems of every kind. -/
def brokenGroup : Group := {
  name := "Player"
  defaultTypeSpelling? := some "object"
  entries := [{ name := "font-size" }, { name := "volume" }, { name := "VOLUME" }] }

theorem resolve_outcome_of_typedGroup_and_brokenGroup :
    (∃ resolved, typedGroup.resolve = .ok resolved ∧ resolved.Keeps typedGroup) ∧
      ∃ error, brokenGroup.resolve = .error error ∧ error.problems.length = 3 ∧
        ∀ problem ∈ error.problems, problem.IsTrueOf brokenGroup := by
  constructor
  · obtain ⟨resolved, hresolve⟩ := (Group.resolve_outcome typedGroup).1.mpr
      ⟨by decide, by decide, by decide, by decide⟩
    exact ⟨resolved, hresolve, (Group.resolve_outcome typedGroup).2.1 resolved hresolve⟩
  · have herror : brokenGroup.resolve = .error ⟨brokenGroup.name, brokenGroup.problems⟩ := by
      decide
    exact ⟨_, herror, by decide, ((Group.resolve_outcome brokenGroup).2.2 _ herror).2.2⟩

end PrefAccessors
