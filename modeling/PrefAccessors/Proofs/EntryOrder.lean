import PrefAccessors.Proofs.BatchProblems
import PrefAccessors.Proofs.GroupResolution

/-! # The order of entries

The entries of a group may stand in any order. It decides in which order the
preferences stand and against which field a repeated accessor name is reported, but
neither whether the group is accepted nor how often a name is reported. What else is
wrong with an entry is told by the entry alone.
-/

namespace PrefAccessors

/-- The values at the given positions, in the order in which these are given. -/
def pick {α : Type} (positions : List Nat) (values : List α) : List α :=
  positions.filterMap fun position => values[position]?

/-- The group with its entries in another order. -/
def Group.reordered (group : Group) (positions : List Nat) : Group :=
  { group with entries := pick positions group.entries }

/-- Whether the problem is told by a single declaration. -/
def Problem.isOfOne (problem : Problem) : Bool := problem.repeatedAccessor?.isNone

/-- Two reports on the same declarations in different order: they are equally long, have the same
problems of single declarations, and report each accessor name equally often. -/
structure SameFindings (first second : List Problem) : Prop where
  length : first.length = second.length
  ofOne : (first.filter Problem.isOfOne).Perm (second.filter Problem.isOfOne)
  repetitions : ∀ name, first.countP (Problem.repeats name) = second.countP (Problem.repeats name)

section

variable {α β : Type} {positions : List Nat} {values : List α}

theorem pick_map (change : α → β) :
    pick positions (values.map change) = (pick positions values).map change := by
  simp [pick, List.map_filterMap]

theorem pick_range (values : List α) : pick (List.range values.length) values = values := by
  induction values with
  | nil => rfl
  | cons value rest ih =>
    rw [pick, List.length_cons, List.range_succ_eq_map, List.filterMap_cons, List.filterMap_map]
    exact congrArg (value :: ·) ih

theorem pick_perm (hpositions : positions.Perm (List.range values.length)) :
    (pick positions values).Perm values := by
  have hpicked : (pick positions values).Perm (pick (List.range values.length) values) :=
    hpositions.filterMap _
  rwa [pick_range] at hpicked

end

/-! ## Reports -/

/-- The reports are equally long if they agree in the other respects: each repetition is one of
some name. -/
theorem SameFindings.of_count {first second : List Problem}
    (hofOne : (first.filter Problem.isOfOne).Perm (second.filter Problem.isOfOne))
    (hrepetitions : ∀ name,
      first.countP (Problem.repeats name) = second.countP (Problem.repeats name)) :
    SameFindings first second where
  length := by
    have hnames : (first.filterMap Problem.repeatedAccessor?).Perm
        (second.filterMap Problem.repeatedAccessor?) := by
      refine List.perm_iff_count.mpr fun name => ?_
      rw [List.count_filterMap, List.count_filterMap]
      exact hrepetitions name
    have hlength (problems : List Problem) : problems.length =
        (problems.filter Problem.isOfOne).length +
          (problems.filterMap Problem.repeatedAccessor?).length := by
      rw [List.length_eq_length_filter_add Problem.isOfOne, List.length_filterMap_eq_countP,
        List.countP_eq_length_filter]
      simp [Problem.isOfOne]
    rw [hlength first, hlength second, hofOne.length_eq, hnames.length_eq]
  ofOne := hofOne
  repetitions := hrepetitions

theorem SameFindings.append_perm {first second more other : List Problem}
    (hsame : SameFindings first second) (hperm : more.Perm other) :
    SameFindings (more ++ first) (other ++ second) := by
  refine .of_count ?_ fun name => ?_
  · rw [List.filter_append, List.filter_append]
    exact (hperm.filter _).append hsame.ofOne
  · rw [List.countP_append, List.countP_append, hperm.countP_eq, hsame.repetitions]

theorem SameFindings.eq_nil_iff {first second : List Problem} (hsame : SameFindings first second) :
    first = [] ↔ second = [] := by
  rw [← List.length_eq_zero_iff, hsame.length, List.length_eq_zero_iff]

namespace Preference

/-- The problem of a preference on its own. -/
def nameProblem? (preference : Preference) : Option Problem :=
  if preference.isNameable then none
  else some (.invalidFieldName preference.field preference.accessor)

theorem filter_isOfOne_problemAfter? (earlier : List Preference) (preference : Preference) :
    (problemAfter? earlier preference).toList.filter Problem.isOfOne =
      preference.nameProblem?.toList := by
  unfold problemAfter? nameProblem?
  split
  next =>
    cases earlier.find? fun other => other.accessor == preference.accessor <;> rfl
  next => rfl

theorem filter_isOfOne_problems (preferences : List Preference) :
    (problems preferences).filter Problem.isOfOne = preferences.filterMap nameProblem? := by
  induction preferences using List.reverseRecOn with
  | nil => rfl
  | append_singleton earlier preference ih =>
    rw [problems_append_singleton, List.filter_append, ih, filter_isOfOne_problemAfter?,
      List.filterMap_append]
    cases hproblem : preference.nameProblem? <;> simp [hproblem]

/-- Of each accessor name all but one preferences are reported, whatever their order. -/
theorem sameFindings_problems {first second : List Preference} (hperm : first.Perm second) :
    SameFindings (problems first) (problems second) := by
  refine .of_count ?_ fun name => ?_
  · rw [filter_isOfOne_problems, filter_isOfOne_problems]
    exact hperm.filterMap _
  · rw [countP_repeats_problems, countP_repeats_problems, (hperm.map accessor).count_eq]

end Preference

/-! ## Groups -/

namespace Group

variable {group : Group} {positions : List Nat}

theorem typeProblems_reordered (hpositions : positions.Perm (List.range group.entries.length)) :
    (group.reordered positions).typeProblems.Perm group.typeProblems :=
  ((pick_perm hpositions).filterMap _).append_left _

theorem preferences_reordered (hpositions : positions.Perm (List.range group.entries.length)) :
    (group.reordered positions).preferences.Perm group.preferences :=
  ((pick_perm hpositions).filter _).map _

theorem sameFindings_reordered (hpositions : positions.Perm (List.range group.entries.length)) :
    SameFindings (group.reordered positions).problems group.problems :=
  (Preference.sameFindings_problems (preferences_reordered hpositions)).append_perm
    (typeProblems_reordered hpositions)

/-- The preferences of an accepted group stand in the order of its entries. -/
theorem resolve_reordered_of_ok (hpositions : positions.Perm (List.range group.entries.length))
    {resolved : PreferenceGroup} (hresolve : group.resolve = .ok resolved) :
    (group.reordered positions).resolve =
      .ok { resolved with preferences := pick positions resolved.preferences } := by
  have hnone : group.problems = [] := exists_resolve_eq_ok_iff.mp ⟨resolved, hresolve⟩
  obtain ⟨other, hother⟩ := exists_resolve_eq_ok_iff.mpr
    ((sameFindings_reordered hpositions).eq_nil_iff.mpr hnone)
  have hpicked : other.preferences = pick positions resolved.preferences := by
    rw [preferences_of_resolve hother, preferences_of_resolve hresolve, pick_map]
    rfl
  rw [hother, ← hpicked]
  obtain ⟨_, _, rfl⟩ := resolve_eq_ok_iff.mp hresolve
  obtain ⟨_, _, rfl⟩ := resolve_eq_ok_iff.mp hother
  rfl

/-- In another order of its entries a group is accepted just as well, and its preferences are
reordered in the same way. A group that is not accepted has as many problems in any order, the
same ones of single entries and types, and equally many repetitions of each accessor name. -/
theorem resolve_reordered (hpositions : positions.Perm (List.range group.entries.length)) :
    ((∃ resolved, group.resolve = .ok resolved) ↔
        ∃ resolved, (group.reordered positions).resolve = .ok resolved) ∧
      (∀ resolved, group.resolve = .ok resolved →
        (group.reordered positions).resolve =
          .ok { resolved with preferences := pick positions resolved.preferences }) ∧
      ∀ error, group.resolve = .error error →
        ∃ other, (group.reordered positions).resolve = .error other ∧
          SameFindings other.problems error.problems := by
  have hsame := sameFindings_reordered hpositions
  refine ⟨?_, fun resolved => resolve_reordered_of_ok hpositions, fun error herror => ?_⟩
  · rw [exists_resolve_eq_ok_iff, exists_resolve_eq_ok_iff, hsame.eq_nil_iff]
  · obtain ⟨hsome, rfl⟩ := resolve_eq_error_iff.mp herror
    exact ⟨_, resolve_eq_error_iff.mpr ⟨hsame.eq_nil_iff.not.mpr hsome, rfl⟩, hsame⟩

end Group

theorem resolve_reordered_of_typedGroup_and_brokenGroup :
    [1, 0].Perm (List.range typedGroup.entries.length) ∧
      [2, 0, 1].Perm (List.range brokenGroup.entries.length) ∧
      (∃ resolved, (typedGroup.reordered [1, 0]).resolve = .ok resolved ∧
        resolved.preferences.map Preference.field = ["max_volume", "MUTED"]) ∧
      ∃ error other, brokenGroup.resolve = .error error ∧
        (brokenGroup.reordered [2, 0, 1]).resolve = .error other ∧
        .duplicateAccessorName "volume" "volume" "VOLUME" ∈ error.problems ∧
        .duplicateAccessorName "volume" "VOLUME" "volume" ∈ other.problems ∧
        SameFindings other.problems error.problems := by
  have htyped : [1, 0].Perm (List.range typedGroup.entries.length) := by decide
  have hbroken : [2, 0, 1].Perm (List.range brokenGroup.entries.length) := by decide
  obtain ⟨resolved, hresolve⟩ : ∃ resolved, typedGroup.resolve = .ok resolved :=
    Group.exists_resolve_eq_ok_iff.mpr (by decide)
  have herror : brokenGroup.resolve = .error ⟨brokenGroup.name, brokenGroup.problems⟩ := by decide
  obtain ⟨other, hother, hsame⟩ := (Group.resolve_reordered hbroken).2.2 _ herror
  obtain ⟨_, rfl⟩ := Group.resolve_eq_error_iff.mp hother
  refine ⟨htyped, hbroken, ⟨_, (Group.resolve_reordered htyped).2.1 resolved hresolve, ?_⟩,
    _, _, herror, hother, by decide, by decide, hsame⟩
  have hfields : (pick [1, 0] (typedGroup.entries.map
      (Entry.preference typedGroup.defaultType?))).map Preference.field =
        ["max_volume", "MUTED"] := by decide
  rwa [← Group.preferences_of_resolve hresolve] at hfields

end PrefAccessors
