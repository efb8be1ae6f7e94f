import PrefAccessors.Proofs.CapitalLetters
import PrefAccessors.Proofs.GroupResolution
import PrefAccessors.Wrapper.Accessors

/-! # Names of accessors

Resolution asks of an accessor name that it is an identifier. The names of methods
have a prefix in front of it, which a boolean entry may declare as any text, and its
first character in upper case. The result here says which accepted groups have methods
whose names are identifiers.
-/

namespace PrefAccessors

open Wrapper

/-- The prefix that a declaration sets before the accessor names of boolean preferences. -/
def IsNamePrefix (written : String) : Prop := written = "" ∨ Name.isIdentifier written

/-- What an entry of a group must satisfy for its methods to have identifiers as names. -/
structure Entry.NamesMethods (group : Group) (entry : Entry) : Prop where
  letter : ¬ Name.beginsMarked entry.accessor
  getterPrefix : group.GivesType entry .boolean →
    ∀ written ∈ entry.booleanPrefix?, IsNamePrefix written

instance (written : String) : Decidable (IsNamePrefix written) :=
  inferInstanceAs (Decidable (written = "" ∨ Name.isIdentifier written))

namespace Preference

theorem forall_accessors_name (receivers : Receivers) (mode : EditorMode)
    (preference : Preference) (property : String → Prop) :
    (∀ method ∈ receivers.accessors mode preference, property method.name) ↔
      property preference.getterName ∧ property preference.setterName := by
  simp only [Receivers.accessors, List.forall_mem_append, List.forall_mem_cons,
    Receivers.name_getter, Receivers.name_setter]
  cases preference.default? with
  | none => simp
  | some fallback => simp

/-- The names of the methods of a preference are identifiers exactly if capitalisation keeps the
accessor name an identifier and the getter prefix can stand before it. -/
theorem isIdentifier_accessors {preference : Preference} (hname : preference.isNameable) :
    Name.isIdentifier preference.getterName ∧ Name.isIdentifier preference.setterName ↔
      ¬ Name.beginsMarked preference.accessor ∧ IsNamePrefix preference.getterPrefix := by
  have hset : Name.isIdentifier "set" := by decide
  rw [getterName, setterName, capitalizedAccessor, Name.isIdentifier_append_capitalize hname,
    Name.isIdentifier_append_capitalize hname, or_iff_right_of_imp (fun _ => hset)]
  unfold IsNamePrefix
  tauto

end Preference

/-- Only the prefix of a boolean entry stands in the names of its methods. -/
theorem Entry.getterPrefix_preference (groupDefault? : Option ValueType) (entry : Entry) :
    (entry.preference groupDefault?).getterPrefix =
      if (entry.preference groupDefault?).valueType = .boolean then
        entry.booleanPrefix?.getD Preference.defaultBooleanPrefix
      else "get" := by
  unfold Entry.preference Preference.resolve Preference.getterPrefix
  generalize (entry.type? <|> groupDefault?).getD .string = type
  cases type <;> rfl

theorem isNamePrefix_getD {written? : Option String} :
    IsNamePrefix (written?.getD Preference.defaultBooleanPrefix) ↔
      ∀ written ∈ written?, IsNamePrefix written := by
  cases written? with
  | none => exact iff_of_true (by decide) (fun written hmem => by cases hmem)
  | some written => simp

namespace Group

variable {group : Group}

theorem givesType_unique {entry : Entry} {first second : ValueType}
    (hfirst : group.GivesType entry first) (hsecond : group.GivesType entry second) :
    first = second := by
  unfold GivesType at hfirst hsecond
  split at hfirst
  next spelling hspelling =>
    rw [hspelling] at hsecond
    exact Option.some.inj (hfirst.symm.trans hsecond)
  next hspelling =>
    rw [hspelling] at hsecond
    exact hfirst.trans hsecond.symm

theorem namesMethods_iff (hvalid : group.IsValid) {entry : Entry} (hentry : entry ∈ group.entries) :
    entry.NamesMethods group ↔
      ¬ Name.beginsMarked entry.accessor ∧
        IsNamePrefix (entry.preference group.defaultType?).getterPrefix := by
  have htype := givesType_preference hvalid hentry
  rw [Entry.getterPrefix_preference]
  by_cases hboolean : (entry.preference group.defaultType?).valueType = .boolean
  · rw [if_pos hboolean, isNamePrefix_getD]
    rw [hboolean] at htype
    constructor
    · intro hnames
      exact ⟨hnames.letter, hnames.getterPrefix htype⟩
    · rintro ⟨hletter, hprefix⟩
      exact ⟨hletter, fun _ => hprefix⟩
  · rw [if_neg hboolean]
    have hget : IsNamePrefix "get" := by decide
    constructor
    · intro hnames
      exact ⟨hnames.letter, hget⟩
    · rintro ⟨hletter, _⟩
      exact ⟨hletter, fun hgives => absurd (givesType_unique htype hgives) hboolean⟩

/-- The methods of an accepted group have identifiers as names exactly if no accessor name begins
with a letter whose upper case has a mark, and the prefixes that boolean entries declare are empty
or identifiers. -/
theorem methodNames_of_resolve {resolved : PreferenceGroup} (receivers : Receivers)
    (hresolve : group.resolve = .ok resolved) :
    (∀ method ∈ receivers.groupAccessors resolved, Name.isIdentifier method.name) ↔
      ∀ entry ∈ group.entries, entry.NamesMethods group := by
  have hvalid := problems_eq_nil_iff.mp (exists_resolve_eq_ok_iff.mp ⟨resolved, hresolve⟩)
  have hpreferences := preferences_of_resolve hresolve
  have heach : ∀ preference ∈ resolved.preferences,
      ((∀ method ∈ receivers.accessors resolved.editorMode preference,
          Name.isIdentifier method.name) ↔
        ¬ Name.beginsMarked preference.accessor ∧ IsNamePrefix preference.getterPrefix) := by
    intro preference hmem
    rw [Preference.forall_accessors_name receivers resolved.editorMode preference
      (fun name => Name.isIdentifier name)]
    exact Preference.isIdentifier_accessors (isNameable_of_resolve hresolve hmem)
  rw [Receivers.groupAccessors, List.forall_mem_flatMap, forall₂_congr heach, hpreferences,
    List.forall_mem_map]
  exact forall₂_congr fun entry hentry => (namesMethods_iff hvalid hentry).symm

end Group

/-- A group with a declared prefix, a prefix that stands in no name, and a letter whose upper case
has two letters. -/
def prefixedGroup : Group := {
  name := "Settings"
  entries := [
    { name := "muted", typeSpelling? := some "boolean", booleanPrefix? := some "has" },
    { name := "volume", typeSpelling? := some "float", booleanPrefix? := some "2" },
    { name := "\u00DFtyle" }] }

theorem methodNames_of_prefixedGroup :
    ∃ resolved, prefixedGroup.resolve = .ok resolved ∧
      ∀ method ∈ Receivers.groupAccessors {} resolved, Name.isIdentifier method.name := by
  obtain ⟨resolved, hresolve⟩ : ∃ resolved, prefixedGroup.resolve = .ok resolved :=
    Group.exists_resolve_eq_ok_iff.mpr (by decide)
  refine ⟨resolved, hresolve, (Group.methodNames_of_resolve {} hresolve).mpr ?_⟩
  have hfloat : ValueType.ofSpelling? "float" ≠ some .boolean := by decide
  intro entry hentry
  simp only [prefixedGroup, List.mem_cons, List.not_mem_nil, or_false] at hentry
  rcases hentry with rfl | rfl | rfl
  · exact ⟨by decide, fun _ => by decide⟩
  · exact ⟨by decide, fun hgives => absurd hgives hfloat⟩
  · exact ⟨by decide, fun _ => by decide⟩

/-- A boolean entry whose prefix is a digit. -/
def digitPrefixGroup : Group := {
  name := "Settings"
  entries := [
    { name := "muted", typeSpelling? := some "boolean", booleanPrefix? := some "2" }] }

/-- An entry whose first letter has an upper case with a combining mark. -/
def markedLetterGroup : Group := {
  name := "Settings"
  entries := [{ name := "\u01F0" }] }

/-- Resolution accepts groups with methods whose names are no identifiers: a declared prefix is
not checked, and capitalisation can bring in a mark. -/
theorem methodNames_invalid_in_resolved_groups :
    (∃ resolved, digitPrefixGroup.resolve = .ok resolved ∧
      ∃ method ∈ Receivers.groupAccessors {} resolved, method.name = "2Muted" ∧
        ¬ Name.isIdentifier method.name) ∧
    ∃ resolved, markedLetterGroup.resolve = .ok resolved ∧
      ∃ method ∈ Receivers.groupAccessors {} resolved, method.name = "getJ\u030C" ∧
        ¬ Name.isIdentifier method.name :=
  ⟨⟨_, Group.resolve_eq_ok_iff.mpr ⟨by decide, by decide, rfl⟩, by decide⟩,
    ⟨_, Group.resolve_eq_ok_iff.mpr ⟨by decide, by decide, rfl⟩, by decide +kernel⟩⟩

end PrefAccessors
