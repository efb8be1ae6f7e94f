import PrefAccessors.Proofs.BatchProblems

/-! # Shared storage keys

Several preferences may use one storage key. A batch check warns about each of them but the
first, and names the nearest one before it. Preferences whose accessor name is no identifier
are passed over on both sides of a warning. The check of the keys is apart from that of the
accessor names: repeated names do not matter to the warnings, and the keys do not matter to
the problems.
-/

namespace PrefAccessors

namespace Preference

/-- Whether the preference uses the storage key. One without accessors uses no key. -/
def usesKey (key : String) (preference : Preference) : Bool :=
  preference.isNameable && preference.key == key

/-- The position is the last one before another where the storage key of that one is used. -/
structure IsNearestSharer (preferences : List Preference)
    (position nearest : Fin preferences.length) : Prop where
  before : nearest < position
  uses : (preferences.get nearest).usesKey (preferences.get position).key
  between : ∀ other, nearest < other → other < position →
    ¬ (preferences.get other).usesKey (preferences.get position).key

/-- The last position before the given one that uses the same storage key. -/
def nearestSharer? (preferences : List Preference) (position : Fin preferences.length) :
    Option (Fin preferences.length) :=
  (List.finRange preferences.length).reverse.find? fun earlier =>
    earlier < position && (preferences.get earlier).usesKey (preferences.get position).key

/-- The warning at a position of a batch. -/
def sharedKeyAt? (preferences : List Preference) (position : Fin preferences.length) :
    Option SharedKey :=
  let preference := preferences.get position
  if Name.isIdentifier preference.accessor then
    (nearestSharer? preferences position).map fun nearest =>
      ⟨preference.key, (preferences.get nearest).field, preference.field⟩
  else none

/-- The warnings about a storage key: one for each two neighbours among its users. -/
def sharings (key : String) (users : List Preference) : List SharedKey :=
  users.zipWith (fun first second => ⟨key, first.field, second.field⟩) users.tail

/-- What the check of accessor names reads of a preference. -/
def naming (preference : Preference) : String × String := (preference.field, preference.accessor)

/-! ## One preference after another -/

theorem sharedKeysAfter_append (nearestFirst first second : List Preference) :
    sharedKeysAfter nearestFirst (first ++ second) =
      sharedKeysAfter nearestFirst first ++
        sharedKeysAfter (first.reverse ++ nearestFirst) second := by
  induction first generalizing nearestFirst with
  | nil => rfl
  | cons preference rest ih =>
    rw [List.cons_append, sharedKeysAfter, sharedKeysAfter, ih, List.append_assoc,
      List.reverse_cons, List.append_assoc, List.singleton_append]

/-- A batch that is one preference longer has the warning about this one in addition. -/
theorem sharedKeys_append_singleton (preferences : List Preference) (preference : Preference) :
    sharedKeys (preferences ++ [preference]) =
      sharedKeys preferences ++ (sharedKeyAfter? preferences.reverse preference).toList := by
  rw [sharedKeys_eq_sharedKeysAfter, sharedKeysAfter_append, sharedKeys_eq_sharedKeysAfter,
    List.append_nil, sharedKeysAfter, sharedKeysAfter, List.append_nil]

/-! ## Position by position -/

theorem sharedKeyAfter?_take (preferences : List Preference) (position : Fin preferences.length) :
    sharedKeyAfter? (preferences.take position).reverse (preferences.get position) =
      sharedKeyAt? preferences position := by
  rw [sharedKeyAfter?, find?_reverse_take, Option.map_map]
  rfl

/-- The check warns about each position at which a warning is due, in the order of the
positions. -/
theorem sharedKeys_eq_filterMap (preferences : List Preference) :
    sharedKeys preferences =
      (List.finRange preferences.length).filterMap (sharedKeyAt? preferences) := by
  have hpositions := append_eq_filterMap sharedKeys_append_singleton [] preferences
  exact hpositions.trans
    (List.filterMap_congr fun position _ => sharedKeyAfter?_take preferences position)

/-- A search from the end of a range stops at the last position that has the property. -/
theorem find?_reverse_finRange_eq_some_iff {count : Nat} {property : Fin count → Bool}
    {found : Fin count} :
    (List.finRange count).reverse.find? property = some found ↔
      property found ∧ ∀ other, found < other → ¬ property other := by
  have hsorted : (List.finRange count).reverse.Pairwise (· > ·) :=
    List.pairwise_reverse.mpr (List.pairwise_lt_finRange count)
  rw [List.find?_eq_some_iff_append]
  refine and_congr_right fun _ => ?_
  constructor
  · rintro ⟨later, earlier, hsplit, hnone⟩ other hafter hother
    have hmem : other ∈ later ++ found :: earlier := by
      rw [← hsplit, List.mem_reverse]
      exact List.mem_finRange other
    rw [hsplit, List.pairwise_append, List.pairwise_cons] at hsorted
    rcases List.mem_append.mp hmem with hlater | hmem
    · exact absurd hother (by simpa using hnone other hlater)
    · rcases List.mem_cons.mp hmem with rfl | hearlier
      · exact lt_irrefl other hafter
      · exact lt_asymm hafter (hsorted.2.1.1 other hearlier)
  · intro hlast
    obtain ⟨later, earlier, hsplit⟩ :=
      List.append_of_mem (List.mem_reverse.mpr (List.mem_finRange found))
    refine ⟨later, earlier, hsplit, fun other hother => ?_⟩
    rw [hsplit, List.pairwise_append] at hsorted
    have hafter := hsorted.2.2 other hother found List.mem_cons_self
    simpa using hlast other hafter

theorem nearestSharer?_eq_some_iff {preferences : List Preference}
    {position nearest : Fin preferences.length} :
    nearestSharer? preferences position = some nearest ↔
      IsNearestSharer preferences position nearest := by
  rw [nearestSharer?, find?_reverse_finRange_eq_some_iff, Bool.and_eq_true, decide_eq_true_iff]
  constructor
  · rintro ⟨⟨hbefore, huses⟩, hlast⟩
    refine ⟨hbefore, huses, fun other hafter hother husesOther => hlast other hafter ?_⟩
    rw [Bool.and_eq_true, decide_eq_true_iff]
    exact ⟨hother, husesOther⟩
  · intro hnearest
    refine ⟨⟨hnearest.before, hnearest.uses⟩, fun other hafter hother => ?_⟩
    rw [Bool.and_eq_true, decide_eq_true_iff] at hother
    exact hnearest.between other hafter hother.1 hother.2

theorem sharedKeyAt?_eq_some_iff {preferences : List Preference}
    {position : Fin preferences.length} {warning : SharedKey} :
    sharedKeyAt? preferences position = some warning ↔
      Name.isIdentifier (preferences.get position).accessor ∧
        ∃ nearest, IsNearestSharer preferences position nearest ∧
          warning = ⟨(preferences.get position).key, (preferences.get nearest).field,
            (preferences.get position).field⟩ := by
  simp only [sharedKeyAt?]
  split
  next hname =>
    simp only [Option.map_eq_some_iff, nearestSharer?_eq_some_iff, hname, true_and]
    exact exists_congr fun nearest => and_congr_right fun _ => eq_comm
  next hname => exact iff_of_false (fun hnone => by cases hnone) fun hboth => hname hboth.1

theorem isSome_sharedKeyAt?_iff {preferences : List Preference}
    {position : Fin preferences.length} :
    (sharedKeyAt? preferences position).isSome ↔
      Name.isIdentifier (preferences.get position).accessor ∧
        ∃ earlier < position, (preferences.get earlier).usesKey (preferences.get position).key := by
  simp only [sharedKeyAt?]
  split
  next hname =>
    simp only [Option.isSome_map, nearestSharer?, List.find?_isSome, List.mem_reverse,
      List.mem_finRange, true_and, Bool.and_eq_true, decide_eq_true_iff, hname]
  next hname => exact iff_of_false (fun hnone => by cases hnone) fun hboth => hname hboth.1

/-! ## Key by key -/

/-- Only a preference that uses the key gives a warning about it, against the last one of the
earlier ones that do. -/
theorem filter_key_sharedKeyAfter? (key : String) (earlier : List Preference)
    (preference : Preference) :
    (sharedKeyAfter? earlier.reverse preference).toList.filter (fun warning => warning.key == key) =
      if preference.usesKey key then
        ((earlier.filter (usesKey key)).getLast?.map fun last =>
          SharedKey.mk key last.field preference.field).toList
      else [] := by
  rw [List.getLast?_filter]
  unfold sharedKeyAfter? usesKey
  by_cases hnameable : preference.isNameable
  · by_cases hkey : preference.key = key
    · subst hkey
      cases earlier.reverse.find? fun other => other.isNameable && other.key == preference.key with
      | none => simp [hnameable]
      | some last => simp [hnameable]
    · cases earlier.reverse.find? fun other => other.isNameable && other.key == preference.key with
      | none => simp [hnameable, hkey]
      | some last => simp [hnameable, hkey]
  · simp [hnameable]

theorem sharings_cons_cons (key : String) (first second : Preference) (rest : List Preference) :
    sharings key (first :: second :: rest) =
      ⟨key, first.field, second.field⟩ :: sharings key (second :: rest) :=
  rfl

theorem sharings_append_singleton (key : String) (users : List Preference)
    (preference : Preference) :
    sharings key (users ++ [preference]) =
      sharings key users ++ (users.getLast?.map fun last =>
        SharedKey.mk key last.field preference.field).toList := by
  induction users with
  | nil => rfl
  | cons first rest ih =>
    cases rest with
    | nil => rfl
    | cons second rest =>
      rw [List.cons_append] at ih ⊢
      rw [List.cons_append, sharings_cons_cons, ih, sharings_cons_cons, List.getLast?_cons_cons,
        List.cons_append]

theorem length_sharings (key : String) (users : List Preference) :
    (sharings key users).length = users.length - 1 := by
  rw [sharings, List.length_zipWith, List.length_tail]
  omega

/-- The users of a key share it in turn, each with the one before it. -/
theorem filter_key_sharedKeys (key : String) (preferences : List Preference) :
    (sharedKeys preferences).filter (fun warning => warning.key == key) =
      sharings key (preferences.filter (usesKey key)) := by
  -- A warning pairs a preference with the last user before it, so the batch grows at its end.
  induction preferences using List.reverseRecOn with
  | nil => rfl
  | append_singleton earlier preference ih =>
    rw [sharedKeys_append_singleton, List.filter_append, ih, filter_key_sharedKeyAfter?,
      List.filter_append, List.filter_singleton]
    split
    next huses => rw [huses, cond_true, sharings_append_singleton]
    next huses =>
      rw [Bool.eq_false_of_not_eq_true huses, cond_false, List.append_nil, List.append_nil]

/-! ## Problems -/

/-- What is wrong with a preference is told by the fields and accessor names. -/
theorem problemAfter?_eq_of_naming (earlier : List Preference) (preference : Preference) :
    problemAfter? earlier preference =
      if Name.isIdentifier preference.naming.2 then
        ((earlier.map naming).find? fun named => named.2 == preference.naming.2).map fun named =>
          .duplicateAccessorName preference.naming.2 named.1 preference.naming.1
      else some (.invalidFieldName preference.naming.1 preference.naming.2) := by
  rw [problemAfter?, List.find?_map, Option.map_map]
  rfl

theorem problemsAfter_congr {earlier other preferences changed : List Preference}
    (hearlier : earlier.map naming = other.map naming)
    (hsame : preferences.map naming = changed.map naming) :
    problemsAfter earlier preferences = problemsAfter other changed := by
  induction preferences generalizing earlier other changed with
  | nil =>
    rw [List.map_nil, eq_comm, List.map_eq_nil_iff] at hsame
    rw [hsame, problemsAfter, problemsAfter]
  | cons preference rest ih =>
    obtain ⟨first, later, rfl, hfirst, hlater⟩ := List.map_eq_cons_iff.mp hsame.symm
    have hnext : (earlier ++ [preference]).map naming = (other ++ [first]).map naming := by
      rw [List.map_append, List.map_append, hearlier, List.map_singleton, List.map_singleton,
        hfirst]
    rw [problemsAfter, problemsAfter, ih hnext hlater.symm, problemAfter?_eq_of_naming,
      problemAfter?_eq_of_naming, hearlier, hfirst]

/-- The storage keys of a batch, and so its warnings, do not matter to its problems. -/
theorem problems_withKeys (preferences : List Preference) (keyAt : Nat → String) :
    problems (preferences.mapIdx fun position preference =>
      { preference with key := keyAt position }) = problems preferences := by
  rw [problems_eq_problemsAfter, problems_eq_problemsAfter]
  refine problemsAfter_congr rfl (List.ext_getElem ?_ fun position hfirst hsecond => ?_)
  · simp
  · simp [naming]

/-! ## The warnings of a batch -/

/-- The warnings about a batch are those of its positions in their order. A warning is due exactly
if the accessor name is an identifier and an earlier position with such a name uses the same
storage key; it is about this key and names the nearest such position first. The users of a key
therefore share it each with the one before it, which gives one warning less than there are users.
Other keys give the same problems. -/
theorem sharedKeys_outcome (preferences : List Preference) :
    sharedKeys preferences =
        (List.finRange preferences.length).filterMap (sharedKeyAt? preferences) ∧
      (∀ position : Fin preferences.length,
        ((sharedKeyAt? preferences position).isSome ↔
          Name.isIdentifier (preferences.get position).accessor ∧
            ∃ earlier < position,
              (preferences.get earlier).usesKey (preferences.get position).key) ∧
        ∀ warning, sharedKeyAt? preferences position = some warning ↔
          Name.isIdentifier (preferences.get position).accessor ∧
            ∃ nearest, IsNearestSharer preferences position nearest ∧
              warning = ⟨(preferences.get position).key, (preferences.get nearest).field,
                (preferences.get position).field⟩) ∧
      (∀ key,
        (sharedKeys preferences).filter (fun warning => warning.key == key) =
            sharings key (preferences.filter (usesKey key)) ∧
          (sharedKeys preferences).countP (fun warning => warning.key == key) =
            preferences.countP (usesKey key) - 1) ∧
      ∀ keyAt : Nat → String,
        problems (preferences.mapIdx fun position preference =>
          { preference with key := keyAt position }) = problems preferences := by
  refine ⟨sharedKeys_eq_filterMap preferences,
    fun position => ⟨isSome_sharedKeyAt?_iff, fun warning => sharedKeyAt?_eq_some_iff⟩,
    fun key => ⟨filter_key_sharedKeys key preferences, ?_⟩, problems_withKeys preferences⟩
  rw [List.countP_eq_length_filter, filter_key_sharedKeys, length_sharings,
    List.countP_eq_length_filter]

/-- A key with three users, two of them with the same accessor name, and a name in between that is
no identifier. -/
example :
    sharedKeys (["a", "-", "A", "b"].map fun name => resolve { name } none (some "shared")) =
      [⟨"shared", "a", "A"⟩, ⟨"shared", "A", "b"⟩] := by
  decide

end Preference

end PrefAccessors
