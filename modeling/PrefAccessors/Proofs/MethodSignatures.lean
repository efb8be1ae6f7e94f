import Mathlib.Data.List.Nodup
import PrefAccessors.Proofs.AsciiNames
import PrefAccessors.Proofs.Resolved
import PrefAccessors.Wrapper.Accessors

/-! # Signatures of accessors

Resolution keeps accessor names apart, but methods are named by a prefix and the
capitalised accessor name. Capitalisation can make two accessor names equal, and a
declared getter prefix can make a getter look like another method. Two methods of
a class then have the same name and the same parameter types; the results here say
exactly when, and which declarations exclude it.
-/

namespace PrefAccessors

/-- What tells the methods of a class apart: the name and the types of the parameters. -/
def Wrapper.Method.callSignature (method : Wrapper.Method) : String × List ValueType :=
  (method.name, method.parameters.map Wrapper.Parameter.type)

open Wrapper

namespace Preference

/-- The signatures of the accessors of a preference. -/
def signatures (preference : Preference) : List (String × List ValueType) :=
  (preference.default?.map fun _ => (preference.getterName, [])).toList ++
    [(preference.getterName, [preference.valueType]),
      (preference.setterName, [preference.valueType])]

/-- Whether two preferences have getters or setters of the same signature, or a getter of one
has the signature of the setter of the other. -/
def Clashes (first second : Preference) : Prop :=
  (first.getterName = second.getterName ∧
      (first.valueType = second.valueType ∨ first.default?.isSome ∧ second.default?.isSome)) ∨
    first.valueType = second.valueType ∧
      (first.capitalizedAccessor = second.capitalizedAccessor ∨
        first.getterName = second.setterName ∨ first.setterName = second.getterName)

theorem map_signature_accessors (receivers : Receivers) (mode : EditorMode)
    (preference : Preference) :
    (receivers.accessors mode preference).map Method.callSignature = preference.signatures := by
  rw [Receivers.accessors, signatures, List.map_append, ← Option.toList_map, Option.map_map]
  simp only [List.map_cons, List.map_nil, Method.callSignature, Receivers.name_setter,
    Receivers.parameters_setter]
  rfl

theorem setterName_eq_iff {first second : Preference} :
    first.setterName = second.setterName ↔
      first.capitalizedAccessor = second.capitalizedAccessor :=
  String.append_right_inj "set"

theorem getterName_eq_setterName_iff {preference : Preference} :
    preference.getterName = preference.setterName ↔ preference.getterPrefix = "set" :=
  String.append_left_inj preference.capitalizedAccessor

theorem signatures_nodup_iff {preference : Preference} :
    preference.signatures.Nodup ↔ preference.getterPrefix ≠ "set" := by
  rw [Ne, ← getterName_eq_setterName_iff]
  cases hdefault : preference.default? <;> simp [signatures, hdefault]

theorem mem_signatures_iff {preference : Preference} {name : String} {types : List ValueType} :
    (name, types) ∈ preference.signatures ↔
      (types = [] ∧ preference.default?.isSome ∧ name = preference.getterName) ∨
        types = [preference.valueType] ∧
          (name = preference.getterName ∨ name = preference.setterName) := by
  cases hdefault : preference.default? <;> simp [signatures, hdefault] <;> tauto

/-- The accessors of two preferences share no signature exactly if the preferences do not
clash. -/
theorem disjoint_signatures_iff {first second : Preference} :
    List.Disjoint first.signatures second.signatures ↔ ¬ first.Clashes second := by
  rw [List.disjoint_left]
  constructor
  · -- Each way to clash gives a signature on both sides.
    intro hdisjoint hclash
    have hshared : ∀ name types, (name, types) ∈ first.signatures →
        (name, types) ∉ second.signatures := fun name types hmem => hdisjoint hmem
    simp only [mem_signatures_iff] at hshared
    rcases hclash with ⟨hname, htype | ⟨hfirst, hsecond⟩⟩ | ⟨htype, hname | hname | hname⟩
    · exact hshared first.getterName [first.valueType] (Or.inr ⟨rfl, Or.inl rfl⟩)
        (Or.inr ⟨by rw [htype], Or.inl hname⟩)
    · exact hshared first.getterName [] (Or.inl ⟨rfl, hfirst, rfl⟩)
        (Or.inl ⟨rfl, hsecond, hname⟩)
    · exact hshared first.setterName [first.valueType] (Or.inr ⟨rfl, Or.inr rfl⟩)
        (Or.inr ⟨by rw [htype], Or.inr (setterName_eq_iff.mpr hname)⟩)
    · exact hshared first.getterName [first.valueType] (Or.inr ⟨rfl, Or.inl rfl⟩)
        (Or.inr ⟨by rw [htype], Or.inr hname⟩)
    · exact hshared first.setterName [first.valueType] (Or.inr ⟨rfl, Or.inr rfl⟩)
        (Or.inr ⟨by rw [htype], Or.inl hname⟩)
  · rintro hclash ⟨name, types⟩ hfirst hsecond
    apply hclash
    rw [mem_signatures_iff] at hfirst hsecond
    -- Only getters without parameters have an empty list of types, so the lists say which of
    -- the accessors can meet.
    rcases hfirst with ⟨rfl, hdefault, rfl⟩ | ⟨rfl, hfirst⟩
    · rcases hsecond with ⟨_, hsecond, hname⟩ | ⟨heq, _⟩
      · exact Or.inl ⟨hname, Or.inr ⟨hdefault, hsecond⟩⟩
      · cases heq
    · rcases hsecond with ⟨heq, _⟩ | ⟨heq, hsecond⟩
      · cases heq
      · have htype := (List.cons.inj heq).1
        rcases hfirst with rfl | rfl <;> rcases hsecond with hname | hname
        · exact Or.inl ⟨hname, Or.inl htype⟩
        · exact Or.inr ⟨htype, Or.inr (Or.inl hname)⟩
        · exact Or.inr ⟨htype, Or.inr (Or.inr hname)⟩
        · exact Or.inr ⟨htype, Or.inl (setterName_eq_iff.mp hname)⟩

end Preference

theorem map_signature_groupAccessors (receivers : Receivers) (group : PreferenceGroup) :
    (receivers.groupAccessors group).map Method.callSignature =
      group.preferences.flatMap Preference.signatures := by
  rw [Receivers.groupAccessors, List.map_flatMap]
  simp only [Preference.map_signature_accessors]

theorem nodup_signatures_iff {receivers : Receivers} {group : PreferenceGroup} :
    ((receivers.groupAccessors group).map Method.callSignature).Nodup ↔
      (∀ preference ∈ group.preferences, preference.getterPrefix ≠ "set") ∧
        group.preferences.Pairwise fun first second => ¬ first.Clashes second := by
  have hdisjoint : (fun first second => ¬ first.Clashes second) =
      Function.onFun List.Disjoint Preference.signatures := by
    funext first second
    exact propext Preference.disjoint_signatures_iff.symm
  rw [map_signature_groupAccessors, List.nodup_flatMap, hdisjoint]
  simp only [Preference.signatures_nodup_iff]

/-! ## Prefixes that cannot be confused -/

/-- Whether none of the texts is the beginning of another one. -/
def PrefixFree (texts : List String) : Prop :=
  ∀ first ∈ texts, ∀ second ∈ texts, first.toList <+: second.toList → first = second

instance (texts : List String) : Decidable (PrefixFree texts) :=
  inferInstanceAs
    (Decidable (∀ first ∈ texts, ∀ second ∈ texts, first.toList <+: second.toList → first = second))

theorem PrefixFree.append_inj {texts : List String} (hfree : PrefixFree texts)
    {first second firstRest secondRest : String} (hfirst : first ∈ texts)
    (hsecond : second ∈ texts) (heq : first ++ firstRest = second ++ secondRest) :
    first = second ∧ firstRest = secondRest := by
  have hchars : first.toList ++ firstRest.toList = second.toList ++ secondRest.toList := by
    rw [← String.toList_append, heq, String.toList_append]
  -- Both are prefixes of one text, so one of them is a prefix of the other.
  have hsame : first = second := by
    have hprefixes := List.prefix_or_prefix_of_prefix
      (List.prefix_append first.toList firstRest.toList)
      (hchars ▸ List.prefix_append second.toList secondRest.toList)
    rcases hprefixes with hprefix | hprefix
    · exact hfree first hfirst second hsecond hprefix
    · exact (hfree second hsecond first hfirst hprefix).symm
  subst hsame
  exact ⟨rfl, (String.append_right_inj first).mp heq⟩

/-- Prefixes that cannot be confused leave only the accessor names to compare. -/
theorem Preference.not_clashes {prefixes : List String} (hfree : PrefixFree ("set" :: prefixes))
    (hset : "set" ∉ prefixes) {first second : Preference}
    (hfirst : first.getterPrefix ∈ prefixes) (hsecond : second.getterPrefix ∈ prefixes)
    (hne : first.capitalizedAccessor ≠ second.capitalizedAccessor) :
    ¬ first.Clashes second := by
  have hfirst' := List.mem_cons_of_mem "set" hfirst
  have hsecond' := List.mem_cons_of_mem "set" hsecond
  have hsetter : "set" ∈ "set" :: prefixes := List.mem_cons_self
  rintro (⟨hgetters, _⟩ | ⟨_, hsetters | hmixed | hmixed⟩)
  · exact hne (hfree.append_inj hfirst' hsecond' hgetters).2
  · exact hne hsetters
  · exact hset ((hfree.append_inj hfirst' hsetter hmixed).1 ▸ hfirst)
  · exact hset ((hfree.append_inj hsetter hsecond' hmixed).1 ▸ hsecond)

/-- The capitalised accessor names of a resolved group are distinct if all names begin
plainly. -/
theorem Group.capitalizedAccessors_distinct {group : Group} {resolved : PreferenceGroup}
    (hresolve : group.resolve = .ok resolved)
    (hnames : ∀ entry ∈ group.entries, Name.beginsPlainly entry.name) :
    resolved.preferences.Pairwise fun first second =>
      first.capitalizedAccessor ≠ second.capitalizedAccessor := by
  have hdistinct := List.pairwise_map.mp (Group.accessors_nodup_of_resolve hresolve)
  rw [Group.preferences_of_resolve hresolve] at hdistinct ⊢
  apply hdistinct.imp_of_mem
  intro first second hfirst hsecond hne heq
  obtain ⟨firstEntry, hfirstEntry, rfl⟩ := List.mem_map.mp hfirst
  obtain ⟨secondEntry, hsecondEntry, rfl⟩ := List.mem_map.mp hsecond
  exact hne (Name.capitalize_injective_of_beginsPlainly (hnames firstEntry hfirstEntry)
    (hnames secondEntry hsecondEntry) heq)

/-- In a resolved group methods share a signature exactly if a getter prefix is `set` or two
preferences clash. Names that begin plainly and prefixes that cannot be confused exclude
both. -/
theorem signatures_of_resolve {group : Group} {resolved : PreferenceGroup}
    (receivers : Receivers) (hresolve : group.resolve = .ok resolved) :
    (((receivers.groupAccessors resolved).map Method.callSignature).Nodup ↔
      (∀ preference ∈ resolved.preferences, preference.getterPrefix ≠ "set") ∧
        resolved.preferences.Pairwise fun first second => ¬ first.Clashes second) ∧
    ∀ prefixes : List String, PrefixFree ("set" :: prefixes) → "set" ∉ prefixes →
      (∀ preference ∈ resolved.preferences, preference.getterPrefix ∈ prefixes) →
      (∀ entry ∈ group.entries, Name.beginsPlainly entry.name) →
      ((receivers.groupAccessors resolved).map Method.callSignature).Nodup := by
  refine ⟨nodup_signatures_iff, fun prefixes hfree hset hprefixes hnames => ?_⟩
  refine nodup_signatures_iff.mpr ⟨?_, ?_⟩
  · intro preference hmem heq
    exact hset (heq ▸ hprefixes preference hmem)
  · apply (Group.capitalizedAccessors_distinct hresolve hnames).imp_of_mem
    intro first second hfirst hsecond hne
    exact Preference.not_clashes hfree hset (hprefixes first hfirst) (hprefixes second hsecond) hne

/-- A group with both kinds of getters and a declared prefix. -/
def plainGroup : Group := {
  name := "Settings"
  entries := [
    { name := "dark_mode", typeSpelling? := some "boolean", default? := some "false" },
    { name := "MUTED", typeSpelling? := some "bool", booleanPrefix? := some "has" },
    { name := "volume", typeSpelling? := some "float" }] }

theorem signatures_of_plainGroup :
    ∃ resolved, plainGroup.resolve = .ok resolved ∧
      (((Receivers.groupAccessors {} resolved).map Method.callSignature).Nodup) :=
  have hresolve := Group.resolve_eq_ok_iff.mpr ⟨by decide, by decide, rfl⟩
  ⟨_, hresolve, (signatures_of_resolve {} hresolve).2 ["get", "is", "has"] (by decide) (by decide)
    (by decide) (by decide)⟩

/-- Two entries whose names differ in a leading underscore only. -/
def underscoreGroup : Group := {
  name := "Settings"
  entries := [{ name := "volume" }, { name := "_volume" }] }

/-- A boolean entry with the getter prefix `set`. -/
def setPrefixGroup : Group := {
  name := "Settings"
  entries := [
    { name := "volume", typeSpelling? := some "boolean", booleanPrefix? := some "set" }] }

/-- Resolution accepts groups whose classes would declare a method twice: a leading underscore
is lost in the names of methods, and a getter prefix can be that of setters. -/
theorem signatures_repeat_in_resolved_groups :
    (∃ resolved, underscoreGroup.resolve = .ok resolved ∧
      ¬ ((Receivers.groupAccessors {} resolved).map Method.callSignature).Nodup) ∧
    ∃ resolved, setPrefixGroup.resolve = .ok resolved ∧
      ¬ ((Receivers.groupAccessors {} resolved).map Method.callSignature).Nodup :=
  ⟨⟨_, Group.resolve_eq_ok_iff.mpr ⟨by decide, by decide, rfl⟩, by decide⟩,
    ⟨_, Group.resolve_eq_ok_iff.mpr ⟨by decide, by decide, rfl⟩, by decide⟩⟩

end PrefAccessors
