import PrefAccessors.Resolution.Problem

/-! # Checks of a batch

The check of a batch goes through the preferences once and remembers in two tables
what it has seen. What it finds can be told without the tables: a preference is
compared with those before it, with the first of them that has its accessor name,
and with the nearest of them that uses its storage key. The tables hold these two
fields at every step, so the pass finds just that.
-/

namespace PrefAccessors

namespace Preference

/-- The problem of a preference that comes after others. -/
def problemAfter? (earlier : List Preference) (preference : Preference) : Option Problem :=
  if preference.isNameable then
    (earlier.find? fun other => other.accessor == preference.accessor).map fun first =>
      .duplicateAccessorName preference.accessor first.field preference.field
  else some (.invalidFieldName preference.field preference.accessor)

/-- The problems of preferences that come after others. -/
def problemsAfter (earlier : List Preference) : List Preference → List Problem
  | [] => []
  | preference :: rest =>
    (problemAfter? earlier preference).toList ++ problemsAfter (earlier ++ [preference]) rest

/-- The warning about a preference that comes after others, the nearest of them first. The
key is shared with the nearest one of those whose accessor name is an identifier. -/
def sharedKeyAfter? (nearestFirst : List Preference) (preference : Preference) :
    Option SharedKey :=
  if preference.isNameable then
    (nearestFirst.find? fun other => other.isNameable && other.key == preference.key).map
      fun first => ⟨preference.key, first.field, preference.field⟩
  else none

/-- The warnings about preferences that come after others, the nearest of them first. -/
def sharedKeysAfter (nearestFirst : List Preference) : List Preference → List SharedKey
  | [] => []
  | preference :: rest =>
    (sharedKeyAfter? nearestFirst preference).toList ++
      sharedKeysAfter (preference :: nearestFirst) rest

end Preference

namespace BatchCheck

open Preference

/-- The tables of a check hold, for each accessor name, the first of the earlier preferences with
this name, and for each storage key the last one that uses it. -/
structure HasSeen (check : BatchCheck) (earlier : List Preference) : Prop where
  accessors : ∀ name, Name.isIdentifier name →
    check.accessors.lookup name = (earlier.find? fun other => other.accessor == name).map field
  keys : ∀ key, check.keys.lookup key =
    (earlier.reverse.find? fun other => other.isNameable && other.key == key).map field

variable {check : BatchCheck} {earlier : List Preference} {preference : Preference}

theorem HasSeen.initial : HasSeen {} [] := ⟨fun _ _ => rfl, fun _ => rfl⟩

/-! ## One step -/

@[simp]
theorem problems_enterKey : (check.enterKey preference).problems = check.problems := rfl

@[simp]
theorem accessors_enterKey : (check.enterKey preference).accessors = check.accessors := rfl

@[simp]
theorem sharedKeys_enterAccessor :
    (check.enterAccessor preference).sharedKeys = check.sharedKeys := by
  unfold enterAccessor
  split <;> rfl

@[simp]
theorem keys_enterAccessor : (check.enterAccessor preference).keys = check.keys := by
  unfold enterAccessor
  split <;> rfl

/-- A step finds the problem that the preference has in view of the earlier ones. -/
theorem HasSeen.problems_step (hseen : check.HasSeen earlier) (preference : Preference) :
    (check.step preference).problems =
      check.problems ++ (problemAfter? earlier preference).toList := by
  unfold step problemAfter?
  split
  next hname =>
    have hfirst := hseen.accessors preference.accessor hname
    rw [problems_enterKey, enterAccessor]
    cases hfound : earlier.find? fun other => other.accessor == preference.accessor with
    | none =>
      rw [hfound, Option.map_none] at hfirst
      simp [hfirst]
    | some first =>
      rw [hfound, Option.map_some] at hfirst
      simp [hfirst]
  next => rfl

/-- A step gives the warning that is due in view of the earlier preferences. -/
theorem HasSeen.sharedKeys_step (hseen : check.HasSeen earlier) (preference : Preference) :
    (check.step preference).sharedKeys =
      check.sharedKeys ++ (sharedKeyAfter? earlier.reverse preference).toList := by
  unfold step sharedKeyAfter?
  split
  next => simp [enterKey, hseen.keys, Option.map_map, Function.comp_def]
  next => simp

/-- An accessor name is entered under its first field only. -/
theorem lookup_accessors_enterAccessor (name : String) :
    (check.enterAccessor preference).accessors.lookup name =
      (check.accessors.lookup name).or
        (if preference.accessor = name then some preference.field else none) := by
  unfold enterAccessor
  split
  next first hfirst =>
    by_cases hname : preference.accessor = name
    · rw [← hname, hfirst, Option.some_or]
    · rw [if_neg hname, Option.or_none]
  next hnone =>
    by_cases hname : preference.accessor = name
    · rw [if_pos hname, ← hname, hnone, List.lookup_cons_self, Option.none_or]
    · rw [if_neg hname, Option.or_none, List.lookup_cons, beq_false_of_ne (Ne.symm hname)]

/-- A storage key is entered under its last field. -/
theorem lookup_keys_enterKey (key : String) :
    (check.enterKey preference).keys.lookup key =
      if preference.key = key then some preference.field else check.keys.lookup key := by
  by_cases hkey : preference.key = key
  · rw [if_pos hkey, ← hkey]
    exact List.lookup_cons_self
  · rw [if_neg hkey, enterKey, List.lookup_cons, beq_false_of_ne (Ne.symm hkey)]

/-- After a step the tables hold what was seen before and the preference. -/
theorem HasSeen.step (hseen : check.HasSeen earlier) (preference : Preference) :
    (check.step preference).HasSeen (earlier ++ [preference]) where
  accessors name hidentifier := by
    rw [List.find?_append, Option.map_or, ← hseen.accessors name hidentifier, BatchCheck.step]
    split
    next =>
      rw [accessors_enterKey, lookup_accessors_enterAccessor]
      by_cases hname : preference.accessor = name <;> simp [hname]
    next hnameable =>
      have hname : preference.accessor ≠ name := by
        rintro rfl
        exact hnameable hidentifier
      simp [hname]
  keys key := by
    rw [List.reverse_append, List.reverse_singleton, List.singleton_append, BatchCheck.step]
    split
    next hnameable =>
      rw [lookup_keys_enterKey, keys_enterAccessor, hseen.keys]
      by_cases hkey : preference.key = key <;> simp [hkey, hnameable]
    next hnameable => simp [hseen.keys, hnameable]

/-! ## The whole pass -/

theorem HasSeen.problems_foldl (hseen : check.HasSeen earlier) (preferences : List Preference) :
    (preferences.foldl BatchCheck.step check).problems =
      check.problems ++ problemsAfter earlier preferences := by
  induction preferences generalizing check earlier with
  | nil => simp [problemsAfter]
  | cons preference rest ih =>
    rw [List.foldl_cons, ih (hseen.step preference), hseen.problems_step, problemsAfter,
      List.append_assoc]

theorem HasSeen.sharedKeys_foldl (hseen : check.HasSeen earlier) (preferences : List Preference) :
    (preferences.foldl BatchCheck.step check).sharedKeys =
      check.sharedKeys ++ sharedKeysAfter earlier.reverse preferences := by
  induction preferences generalizing check earlier with
  | nil => simp [sharedKeysAfter]
  | cons preference rest ih =>
    rw [List.foldl_cons, ih (hseen.step preference), hseen.sharedKeys_step, sharedKeysAfter,
      List.append_assoc, List.reverse_append]
    rfl

end BatchCheck

namespace Preference

/-- The check of a batch compares each preference with those before it. -/
theorem problems_eq_problemsAfter (preferences : List Preference) :
    problems preferences = problemsAfter [] preferences :=
  BatchCheck.HasSeen.initial.problems_foldl preferences

theorem sharedKeys_eq_sharedKeysAfter (preferences : List Preference) :
    sharedKeys preferences = sharedKeysAfter [] preferences :=
  BatchCheck.HasSeen.initial.sharedKeys_foldl preferences

end Preference

end PrefAccessors
