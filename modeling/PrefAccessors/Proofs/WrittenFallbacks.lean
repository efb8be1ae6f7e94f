import PrefAccessors.Generation.Run
import PrefAccessors.Proofs.GroupResolution

/-! # Fallbacks written out

Resolution fills in what a declaration leaves open: types come from the group, keys
from names, and boolean entries have a usual getter prefix. A declaration can also
say all of this itself, and then nothing is left to fall back on. Both declarations
mean the same. They are resolved to the same preferences, have the same problems, and
give the same class.
-/

namespace PrefAccessors

/-! ## The longer declaration -/

/-- The spelling under which the type of an entry is looked up. -/
def Group.spellingOf (group : Group) (entry : Entry) : String :=
  (entry.typeSpelling? <|> group.defaultTypeSpelling?).getD ValueType.string.spelling

/-- The getter prefix that is written for an entry. Types other than boolean have none, and an
entry whose type cannot be read keeps what it declares. -/
def Group.writtenPrefix? (group : Group) (entry : Entry) : Option String :=
  match ValueType.ofSpelling? (group.spellingOf entry) with
  | some .boolean => some (entry.booleanPrefix?.getD Preference.defaultBooleanPrefix)
  | some _ => none
  | none => entry.booleanPrefix?

/-- The entry with its type, its key and its getter prefix written out. -/
def Group.writeOut (group : Group) (entry : Entry) : Entry :=
  { entry with
    typeSpelling? := some (group.spellingOf entry)
    booleanPrefix? := group.writtenPrefix? entry
    key? := some (entry.key?.getD entry.name) }

/-- The group without a default type, in which every entry is written out. -/
def Group.writtenOut (group : Group) : Group :=
  { group with
    defaultTypeSpelling? := none
    entries := group.entries.map group.writeOut }

/-- The resolved group with no record of a default type. -/
def PreferenceGroup.withoutDefaultType (group : PreferenceGroup) : PreferenceGroup :=
  { group with defaultType? := none }

namespace Group

section

variable {group : Group} {entry : Entry}

/-! ## One entry -/

/-- The spelling of a type of its own is kept, and any other one that is written can be read. -/
theorem typeProblem?_writeOut (hdefault : IsReadable group.defaultTypeSpelling?) :
    typeProblem? entry.name (group.writeOut entry).typeSpelling? =
      typeProblem? entry.name entry.typeSpelling? := by
  cases hspelling : entry.typeSpelling? with
  | some spelling => simp [writeOut, spellingOf, hspelling]
  | none =>
    have hreadable : IsReadable (group.writeOut entry).typeSpelling? := by
      cases hshared : group.defaultTypeSpelling? with
      | some spelling => simpa [writeOut, spellingOf, hspelling, hshared] using hdefault
      | none =>
        simp only [writeOut, spellingOf, hspelling, hshared]
        decide
    rw [typeProblem?_eq_none_iff.mpr hreadable]
    rfl

theorem hasKnownType_writeOut (hdefault : IsReadable group.defaultTypeSpelling?) :
    (group.writeOut entry).hasKnownType = entry.hasKnownType := by
  have hname : (group.writeOut entry).name = entry.name := rfl
  rw [Entry.hasKnownType, hname, typeProblem?_writeOut hdefault, Entry.hasKnownType]

/-- The written spelling is that of the type which resolution would find. -/
theorem ofSpelling?_spellingOf (hdefault : IsReadable group.defaultTypeSpelling?)
    (hknown : entry.hasKnownType) :
    ValueType.ofSpelling? (group.spellingOf entry) =
      some ((entry.type? <|> group.defaultType?).getD .string) := by
  have hown := Entry.hasKnownType_iff.mp hknown
  cases hspelling : entry.typeSpelling? with
  | some spelling =>
    obtain ⟨type, htype⟩ := Option.isSome_iff_exists.mp (hown spelling hspelling)
    simp [spellingOf, Entry.type?, hspelling, htype]
  | none =>
    cases hshared : group.defaultTypeSpelling? with
    | some spelling =>
      obtain ⟨type, htype⟩ := Option.isSome_iff_exists.mp (hdefault spelling hshared)
      simp [spellingOf, Entry.type?, defaultType?, hspelling, hshared, htype]
    | none =>
      simp only [spellingOf, Entry.type?, defaultType?, hspelling, hshared]
      decide

/-- A written prefix is the one that resolution would choose. -/
theorem getD_writtenPrefix? {type : ValueType}
    (htype : ValueType.ofSpelling? (group.spellingOf entry) = some type) :
    (if type.isBoolean then
        some ((group.writtenPrefix? entry).getD Preference.defaultBooleanPrefix) else none) =
      if type.isBoolean then
        some (entry.booleanPrefix?.getD Preference.defaultBooleanPrefix) else none := by
  rw [writtenPrefix?, htype]
  cases type <;> rfl

/-- An entry that is written out declares the same preference, with nothing to fall back on. -/
theorem preference_writeOut (hdefault : IsReadable group.defaultTypeSpelling?)
    (hknown : entry.hasKnownType) :
    (group.writeOut entry).preference none = entry.preference group.defaultType? := by
  have htype := ofSpelling?_spellingOf hdefault hknown
  have hspelling : (group.writeOut entry).typeSpelling? = some (group.spellingOf entry) := rfl
  generalize heq : (entry.type? <|> group.defaultType?).getD .string = type at htype
  have hread : (group.writeOut entry).type? = some type := by
    rw [Entry.type?, hspelling, Option.bind_some, htype]
  have hwritten : (group.writeOut entry).preference none =
      { field := entry.name
        key := entry.key?.getD entry.name
        accessor := Name.camelCase entry.name
        valueType := type
        default? := entry.default?
        booleanPrefix? :=
          if type.isBoolean then
            some ((group.writtenPrefix? entry).getD Preference.defaultBooleanPrefix) else none
        description? := entry.description? } := by
    have hown : ((some type <|> (none : Option ValueType)).getD .string) = type := rfl
    have hprefix : (group.writeOut entry).booleanPrefix? = group.writtenPrefix? entry := by
      rw [writeOut]
    unfold Entry.preference Preference.resolve
    simp only [hread, hown, hprefix]
    rfl
  rw [hwritten, getD_writtenPrefix? htype, ← heq]
  rfl

/-! ## The whole group -/

theorem typeProblems_writtenOut (hdefault : IsReadable group.defaultTypeSpelling?) :
    group.writtenOut.typeProblems = group.typeProblems := by
  have hshared : typeProblem? defaultTypeField group.defaultTypeSpelling? = none :=
    typeProblem?_eq_none_iff.mpr hdefault
  have hnone : typeProblem? defaultTypeField group.writtenOut.defaultTypeSpelling? = none := rfl
  rw [typeProblems, typeProblems, hshared, hnone]
  congr 1
  have heach (entry : Entry) :
      typeProblem? (group.writeOut entry).name (group.writeOut entry).typeSpelling? =
        typeProblem? entry.name entry.typeSpelling? := by
    have hname : (group.writeOut entry).name = entry.name := rfl
    rw [hname, typeProblem?_writeOut hdefault]
  rw [writtenOut, List.filterMap_map]
  simp only [Function.comp_def, heach]

/-- The entries that are left out are the same ones, and the others declare the same preferences. -/
theorem preferences_writtenOut (hdefault : IsReadable group.defaultTypeSpelling?) :
    group.writtenOut.preferences = group.preferences := by
  have hknown : Entry.hasKnownType ∘ group.writeOut = Entry.hasKnownType := by
    funext entry
    rw [Function.comp_apply, hasKnownType_writeOut hdefault]
  have hkept : group.writtenOut.entries.filter Entry.hasKnownType =
      (group.entries.filter Entry.hasKnownType).map group.writeOut := by
    rw [writtenOut, List.filter_map, hknown]
  rw [preferences, preferences, hkept, List.map_map]
  exact List.map_congr_left fun entry hentry =>
    preference_writeOut hdefault (List.mem_filter.mp hentry).2

theorem problems_writtenOut (hdefault : IsReadable group.defaultTypeSpelling?) :
    group.writtenOut.problems = group.problems := by
  rw [problems, typeProblems_writtenOut hdefault, preferences_writtenOut hdefault, problems]

theorem resolve_writtenOut (hdefault : IsReadable group.defaultTypeSpelling?) :
    group.writtenOut.resolve = group.resolve.map PreferenceGroup.withoutDefaultType := by
  rw [resolve, resolve, problems_writtenOut hdefault, preferences_writtenOut hdefault]
  split <;> rfl

/-- Nothing that is made of a resolved group looks at its default type. -/
theorem generate_withoutDefaultType (settings : Wrapper.Settings) (resolved : PreferenceGroup) :
    resolved.withoutDefaultType.generate settings = resolved.generate settings := rfl

theorem generate_writtenOut (hdefault : IsReadable group.defaultTypeSpelling?)
    (settings : Wrapper.Settings) :
    group.writtenOut.generate settings = group.generate settings := by
  have hlog : group.writtenOut.resolutionLog = group.resolutionLog := by
    rw [resolutionLog, preferences_writtenOut hdefault, resolutionLog]
  rw [generate, generate, hlog, resolve_writtenOut hdefault]
  cases group.resolve with
  | error error => rfl
  | ok resolved =>
    simp only [Except.map, generate_withoutDefaultType]
    rfl

end

/-- A group whose default type can be read means the same when its fallbacks are written out: it is
resolved to the same preferences or has the same problems in the same order, and a run gives the
same class or the same error for it. -/
theorem writtenOut_outcome (group : Group) (hdefault : IsReadable group.defaultTypeSpelling?) :
    group.writtenOut.resolve = group.resolve.map PreferenceGroup.withoutDefaultType ∧
      ∀ settings, group.writtenOut.generate settings = group.generate settings :=
  ⟨resolve_writtenOut hdefault, generate_writtenOut hdefault⟩

end Group

/-- A group in which every part of an entry is left open somewhere. -/
def openGroup : Group := {
  name := "Player"
  defaultTypeSpelling? := some " Bool "
  entries := [
    { name := "MUTED" },
    { name := "shuffle", booleanPrefix? := some "has", key? := some "pref.shuffle" },
    { name := "title", typeSpelling? := some "string", booleanPrefix? := some "is" }] }

/-- A group with an entry of unknown type and one that repeats a name. -/
def openBrokenGroup : Group := {
  name := "Player"
  entries := [
    { name := "ratio", typeSpelling? := some "double", booleanPrefix? := some "has" },
    { name := "volume" }, { name := "VOLUME", typeSpelling? := some "int" }] }

theorem writtenOut_outcome_of_openGroup_and_openBrokenGroup :
    IsReadable openGroup.defaultTypeSpelling? ∧ IsReadable openBrokenGroup.defaultTypeSpelling? ∧
      openGroup.writtenOut.entries = [
        { name := "MUTED", typeSpelling? := some " Bool ", booleanPrefix? := some "is",
          key? := some "MUTED" },
        { name := "shuffle", typeSpelling? := some " Bool ", booleanPrefix? := some "has",
          key? := some "pref.shuffle" },
        { name := "title", typeSpelling? := some "string", key? := some "title" }] ∧
      (∃ resolved, openGroup.resolve = .ok resolved ∧
        openGroup.writtenOut.resolve = .ok resolved.withoutDefaultType) ∧
      ∃ error, openBrokenGroup.resolve = .error error ∧ error.problems.length = 2 ∧
        openBrokenGroup.writtenOut.resolve = .error error ∧
        (openBrokenGroup.writtenOut.generate {}).result = .error (.resolution error) := by
  have hdefault : IsReadable openGroup.defaultTypeSpelling? := by decide
  have hnone : IsReadable openBrokenGroup.defaultTypeSpelling? := by decide
  obtain ⟨resolved, hresolve⟩ : ∃ resolved, openGroup.resolve = .ok resolved :=
    Group.exists_resolve_eq_ok_iff.mpr (by decide)
  have herror : openBrokenGroup.resolve =
      .error ⟨openBrokenGroup.name, openBrokenGroup.problems⟩ := by decide
  obtain ⟨hbroken, hrun⟩ := Group.writtenOut_outcome openBrokenGroup hnone
  refine ⟨hdefault, hnone, by decide, ⟨resolved, hresolve, ?_⟩, _, herror, by decide, ?_, ?_⟩
  · rw [(Group.writtenOut_outcome openGroup hdefault).1, hresolve]
    rfl
  · rw [hbroken, herror]
    rfl
  · rw [hrun, Group.generate, herror]
    rfl

end PrefAccessors
