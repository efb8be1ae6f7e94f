import Mathlib.Data.List.FinRange
import Mathlib.Data.List.Induction
import PrefAccessors.Proofs.Resolved

/-! # The problems of a batch

What is wrong at a position of a batch is told by the accessor name there and by the
positions before it. A name that is no identifier is reported as such. Another name is
reported from its second position on, and always against the field of the first one.
The check of the batch reports just this, in the order of the positions.
-/

namespace PrefAccessors

/-- The accessor name whose repetition is the problem. -/
def Problem.repeatedAccessor? : Problem → Option String
  | duplicateAccessorName accessor _ _ => some accessor
  | _ => none

/-- Whether the problem is a repetition of the accessor name. -/
def Problem.repeats (accessor : String) (problem : Problem) : Bool :=
  problem.repeatedAccessor? == some accessor

section

variable {α β : Type}

/-- The positions of a list are the first one and those of the rest, moved by one:
`List.finRange_succ` for the length of a list, which is no successor in writing. -/
theorem finRange_length_cons (value : α) (rest : List α) :
    List.finRange (value :: rest).length =
      (0 : Fin (rest.length + 1)) :: (List.finRange rest.length).map Fin.succ :=
  List.finRange_succ

/-- The beginning of a list has the values at its positions there. -/
theorem take_eq_map_filter (values : List α) (count : Nat) :
    values.take count =
      ((List.finRange values.length).filter fun position => position.val < count).map
        (values[·]) := by
  induction values generalizing count with
  | nil => simp
  | cons value rest ih =>
    rw [finRange_length_cons]
    cases count with
    | zero => simp
    | succ count =>
      rw [List.take_succ_cons, ih, List.filter_cons, List.filter_map]
      simp [Function.comp_def]

/-- Searching the beginning of a list is searching its positions there. -/
theorem find?_take (property : α → Bool) (values : List α) (count : Nat) :
    (values.take count).find? property =
      ((List.finRange values.length).find? fun position =>
        position.val < count && property values[position]).map (values[·]) := by
  rw [take_eq_map_filter, List.find?_map, List.find?_filter]
  simp

/-- Searching the beginning of a list from its end is searching its positions there from the
last one. -/
theorem find?_reverse_take (property : α → Bool) (values : List α) (count : Nat) :
    (values.take count).reverse.find? property =
      ((List.finRange values.length).reverse.find? fun position =>
        position.val < count && property values[position]).map (values[·]) := by
  rw [take_eq_map_filter, ← List.map_reverse, ← List.filter_reverse, List.find?_map,
    List.find?_filter]
  simp

/-- What a pass finds in further values is found at their positions, if each step finds something
in view of the values before it. -/
theorem append_eq_filterMap {found : List α → List β} {finding? : List α → α → Option β}
    (hstep : ∀ earlier value,
      found (earlier ++ [value]) = found earlier ++ (finding? earlier value).toList)
    (earlier values : List α) :
    found (earlier ++ values) =
      found earlier ++ (List.finRange values.length).filterMap fun position : Fin values.length =>
        finding? (earlier ++ values.take position) values[position] := by
  induction values generalizing earlier with
  | nil => simp
  | cons value rest ih =>
    have hnext := ih (earlier ++ [value])
    rw [List.append_assoc, List.singleton_append, hstep, List.append_assoc] at hnext
    rw [hnext, finRange_length_cons, List.filterMap_cons, List.filterMap_map]
    cases hfinding : finding? earlier value <;> simp [hfinding, Function.comp_def]

end

namespace Preference

/-- The earliest position before the given one whose preference has the same accessor name. -/
def earliestNamesake? (preferences : List Preference) (position : Fin preferences.length) :
    Option (Fin preferences.length) :=
  (List.finRange preferences.length).find? fun earlier =>
    earlier < position && preferences[earlier].accessor == preferences[position].accessor

/-- What is wrong at a position of a batch. -/
def problemAt? (preferences : List Preference) (position : Fin preferences.length) :
    Option Problem :=
  let preference := preferences[position]
  if Name.isIdentifier preference.accessor then
    (earliestNamesake? preferences position).map fun earliest =>
      .duplicateAccessorName preference.accessor preferences[earliest].field preference.field
  else some (.invalidFieldName preference.field preference.accessor)

/-- The repetitions of an accessor name among all preferences that have it. -/
def repetitions (name : String) : List Preference → List Problem
  | [] => []
  | first :: later =>
    later.map fun preference => .duplicateAccessorName name first.field preference.field

/-! ## One preference after another -/

theorem problemsAfter_append (earlier first second : List Preference) :
    problemsAfter earlier (first ++ second) =
      problemsAfter earlier first ++ problemsAfter (earlier ++ first) second := by
  induction first generalizing earlier with
  | nil => simp [problemsAfter]
  | cons preference rest ih =>
    rw [List.cons_append, problemsAfter, problemsAfter, ih, List.append_assoc, List.append_assoc,
      List.singleton_append]

/-- A batch that is one preference longer has the problem of this one in addition. -/
theorem problems_append_singleton (preferences : List Preference) (preference : Preference) :
    problems (preferences ++ [preference]) =
      problems preferences ++ (problemAfter? preferences preference).toList := by
  rw [problems_eq_problemsAfter, problemsAfter_append, problems_eq_problemsAfter,
    List.nil_append, problemsAfter, problemsAfter, List.append_nil]

/-! ## Position by position -/

theorem problemAfter?_take (preferences : List Preference) (position : Fin preferences.length) :
    problemAfter? (preferences.take position) preferences[position] =
      problemAt? preferences position := by
  rw [problemAfter?, find?_take, Option.map_map]
  rfl

/-- The check reports what is wrong at each position, in the order of the positions. -/
theorem problems_eq_filterMap (preferences : List Preference) :
    problems preferences =
      (List.finRange preferences.length).filterMap (problemAt? preferences) := by
  have hpositions := append_eq_filterMap problems_append_singleton [] preferences
  simp only [List.nil_append, problemAfter?_take] at hpositions
  exact hpositions

/-! ## Name by name -/

/-- Only a preference of that name repeats it, and only if the name is an identifier. -/
theorem filter_repeats_problemAfter? (name : String) (earlier : List Preference)
    (preference : Preference) :
    (problemAfter? earlier preference).toList.filter (Problem.repeats name) =
      if Name.isIdentifier name ∧ preference.accessor = name then
        ((earlier.find? fun other => other.accessor == name).map fun first =>
          Problem.duplicateAccessorName name first.field preference.field).toList
      else [] := by
  unfold problemAfter? isNameable
  by_cases heq : preference.accessor = name
  · rw [heq]
    split
    next hname =>
      rw [if_pos ⟨hname, rfl⟩]
      cases earlier.find? fun other => other.accessor == name with
      | none => rfl
      | some first => simp [Problem.repeats, Problem.repeatedAccessor?]
    next hname =>
      rw [if_neg fun hboth => hname hboth.1]
      rfl
  · have hother : ¬ (Name.isIdentifier name ∧ preference.accessor = name) := fun hboth =>
      heq hboth.2
    rw [if_neg hother]
    split
    next =>
      cases earlier.find? fun other => other.accessor == preference.accessor with
      | none => rfl
      | some first => simp [Problem.repeats, Problem.repeatedAccessor?, heq]
    next => rfl

theorem repetitions_append_singleton (name : String) (namesakes : List Preference)
    (preference : Preference) :
    repetitions name (namesakes ++ [preference]) =
      repetitions name namesakes ++ (namesakes.head?.map fun first =>
        Problem.duplicateAccessorName name first.field preference.field).toList := by
  cases namesakes with
  | nil => rfl
  | cons first later => simp [repetitions]

theorem length_repetitions (name : String) (namesakes : List Preference) :
    (repetitions name namesakes).length = namesakes.length - 1 := by
  cases namesakes with
  | nil => rfl
  | cons first later => simp [repetitions]

/-- The repetitions of an identifier are reported one by one against its first field. -/
theorem filter_repeats_problems (name : String) (preferences : List Preference) :
    (problems preferences).filter (Problem.repeats name) =
      if Name.isIdentifier name then
        repetitions name (preferences.filter fun other => other.accessor == name)
      else [] := by
  induction preferences using List.reverseRecOn with
  | nil => simp [problems, checkBatch, repetitions]
  | append_singleton earlier preference ih =>
    rw [problems_append_singleton, List.filter_append, ih, filter_repeats_problemAfter?,
      List.filter_append]
    split
    next hname =>
      by_cases heq : preference.accessor = name
      · have hsame : (preference.accessor == name) = true := beq_iff_eq.mpr heq
        rw [if_pos ⟨hname, heq⟩, List.filter_singleton, hsame, cond_true,
          repetitions_append_singleton, List.head?_filter]
      · have hother : (preference.accessor == name) = false := beq_false_of_ne heq
        rw [if_neg fun hboth => heq hboth.2, List.filter_singleton, hother, cond_false,
          List.append_nil, List.append_nil]
    next hname => rw [if_neg fun hboth => hname hboth.1, List.append_nil]

theorem countP_repeats_problems (name : String) (preferences : List Preference) :
    (problems preferences).countP (Problem.repeats name) =
      if Name.isIdentifier name then (preferences.map accessor).count name - 1 else 0 := by
  rw [List.countP_eq_length_filter, filter_repeats_problems]
  split
  next =>
    rw [length_repetitions, List.count_eq_countP, List.countP_map, List.countP_eq_length_filter]
    rfl
  next => rfl

/-- The problems of a batch are those of its positions in their order. There are none exactly if
the accessor names are distinct identifiers, and an identifier that occurs several times is
reported once less than it occurs, each time against the field where it stands first. -/
theorem problems_outcome (preferences : List Preference) :
    problems preferences =
        (List.finRange preferences.length).filterMap (problemAt? preferences) ∧
      (problems preferences = [] ↔
        (∀ preference ∈ preferences, Name.isIdentifier preference.accessor) ∧
          (preferences.map accessor).Nodup) ∧
      ∀ name,
        (problems preferences).filter (Problem.repeats name) =
            (if Name.isIdentifier name then
              repetitions name (preferences.filter fun other => other.accessor == name)
            else []) ∧
          (problems preferences).countP (Problem.repeats name) =
            if Name.isIdentifier name then (preferences.map accessor).count name - 1 else 0 :=
  ⟨problems_eq_filterMap preferences, problems_eq_nil_iff, fun name =>
    ⟨filter_repeats_problems name preferences, countP_repeats_problems name preferences⟩⟩

/-- Repeated names between names that are no identifiers. -/
example :
    problems (["A", "-", "a", "-", "_a", "a_"].map fun name => resolve { name } none none) =
      [.invalidFieldName "-" "-", .duplicateAccessorName "a" "A" "a", .invalidFieldName "-" "-",
        .duplicateAccessorName "a" "A" "a_"] := by
  decide

end Preference

end PrefAccessors
