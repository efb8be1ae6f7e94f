import Mathlib.Data.List.Basic
import PrefAccessors.Proofs.BatchChecks
import PrefAccessors.Resolution.PreferenceGroup

/-! # Resolved groups

What is known of a group once it is resolved: it has all preferences of the
declared group, each from its entry, and their accessor names are distinct
identifiers.
-/

namespace PrefAccessors

namespace Preference

theorem problemAfter?_eq_none_iff {earlier : List Preference} {preference : Preference} :
    problemAfter? earlier preference = none ↔
      preference.isNameable ∧ ∀ other ∈ earlier, other.accessor ≠ preference.accessor := by
  unfold problemAfter?
  split
  next hnameable => simp [hnameable]
  next hnameable => simp [hnameable]

theorem problemsAfter_eq_nil_iff {earlier preferences : List Preference} :
    problemsAfter earlier preferences = [] ↔
      (∀ preference ∈ preferences, preference.isNameable) ∧
        (preferences.map accessor).Nodup ∧
          ∀ preference ∈ preferences, ∀ other ∈ earlier, other.accessor ≠ preference.accessor := by
  induction preferences generalizing earlier with
  | nil => simp [problemsAfter]
  | cons preference rest ih =>
    rw [problemsAfter, List.append_eq_nil_iff, Option.toList_eq_nil_iff,
      problemAfter?_eq_none_iff, ih]
    simp only [List.forall_mem_cons, List.map_cons, List.nodup_cons, List.mem_map,
      List.mem_append, List.mem_singleton]
    -- What comes before the rest is `earlier` and the first preference; both sides say that the
    -- rest differs from them.
    constructor
    · rintro ⟨⟨hfirst, hearlier⟩, hnameable, hdistinct, hlater⟩
      refine ⟨⟨hfirst, hnameable⟩, ⟨?_, hdistinct⟩, hearlier, ?_⟩
      · rintro ⟨other, hother, heq⟩
        exact hlater other hother preference (Or.inr rfl) heq.symm
      · exact fun other hother first hmem => hlater other hother first (Or.inl hmem)
    · rintro ⟨⟨hfirst, hnameable⟩, ⟨hnot, hdistinct⟩, hearlier, hlater⟩
      refine ⟨⟨hfirst, hearlier⟩, hnameable, hdistinct, ?_⟩
      rintro other hother first (hmem | rfl) heq
      · exact hlater other hother first hmem heq
      · exact hnot ⟨other, hother, heq.symm⟩

/-- A batch has no problems exactly if its accessor names are distinct identifiers. -/
theorem problems_eq_nil_iff {preferences : List Preference} :
    problems preferences = [] ↔
      (∀ preference ∈ preferences, preference.isNameable) ∧ (preferences.map accessor).Nodup := by
  simp [problems_eq_problemsAfter, problemsAfter_eq_nil_iff]

end Preference

namespace Group

theorem resolve_eq_ok_iff {group : Group} {resolved : PreferenceGroup} :
    group.resolve = .ok resolved ↔
      group.typeProblems = [] ∧ Preference.problems group.preferences = [] ∧
        resolved = {
          name := group.name
          package? := group.package?
          defaultType? := group.defaultType?
          editorMode := group.editorMode
          description? := group.description?
          preferences := group.preferences } := by
  unfold resolve
  split
  next hnone =>
    rw [List.isEmpty_iff, problems, List.append_eq_nil_iff] at hnone
    simp [hnone.1, hnone.2, eq_comm]
  next hsome =>
    rw [List.isEmpty_iff, problems, List.append_eq_nil_iff] at hsome
    constructor
    · intro heq
      cases heq
    · rintro ⟨htypes, hnames, _⟩
      exact absurd ⟨htypes, hnames⟩ hsome

theorem typeProblems_eq_nil_iff {group : Group} :
    group.typeProblems = [] ↔
      typeProblem? defaultTypeField group.defaultTypeSpelling? = none ∧
        ∀ entry ∈ group.entries, entry.hasKnownType := by
  simp [typeProblems, Entry.hasKnownType, List.filterMap_eq_nil_iff]

/-- Without unknown types no entry is left out. -/
theorem preferences_eq_map {group : Group} (htypes : group.typeProblems = []) :
    group.preferences = group.entries.map (Entry.preference group.defaultType?) := by
  rw [preferences, List.filter_eq_self.mpr (typeProblems_eq_nil_iff.mp htypes).2]

end Group

section

variable {group : Group} {resolved : PreferenceGroup}

theorem Group.name_of_resolve (hresolve : group.resolve = .ok resolved) :
    resolved.name = group.name := by
  obtain ⟨_, _, rfl⟩ := Group.resolve_eq_ok_iff.mp hresolve
  rfl

theorem Group.preferences_of_resolve (hresolve : group.resolve = .ok resolved) :
    resolved.preferences = group.entries.map (Entry.preference group.defaultType?) := by
  obtain ⟨htypes, _, rfl⟩ := Group.resolve_eq_ok_iff.mp hresolve
  exact Group.preferences_eq_map htypes

theorem Group.accessors_nodup_of_resolve (hresolve : group.resolve = .ok resolved) :
    (resolved.preferences.map Preference.accessor).Nodup := by
  obtain ⟨_, hproblems, rfl⟩ := Group.resolve_eq_ok_iff.mp hresolve
  exact (Preference.problems_eq_nil_iff.mp hproblems).2

theorem Group.isNameable_of_resolve (hresolve : group.resolve = .ok resolved)
    {preference : Preference} (hmem : preference ∈ resolved.preferences) :
    preference.isNameable := by
  obtain ⟨_, hproblems, rfl⟩ := Group.resolve_eq_ok_iff.mp hresolve
  exact (Preference.problems_eq_nil_iff.mp hproblems).1 preference hmem

end

end PrefAccessors
