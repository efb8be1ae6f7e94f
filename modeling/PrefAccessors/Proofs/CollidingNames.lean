import PrefAccessors.Proofs.AsciiNames

/-! # Names that collide

Two names of ASCII characters have the same accessor name exactly if they agree up to
letter case and up to underscores that separate no words. An underscore separates
words only if a letter follows, and several of them separate as one does. The accessor
name keeps what is left: each capital letter in it stands for an underscore and the
small letter, so the words can be read back.
-/

namespace PrefAccessors.Name

open Text

/-- The text with its runs of underscores shrunk: a run before a letter becomes one underscore, and
any other run is deleted. -/
def shrinkRuns : List Char → List Char
  | [] => []
  | char :: rest =>
    if char = '_' then
      let following := rest.dropWhile (· == '_')
      (if following.head?.any Char.isAlpha then ['_'] else []) ++ shrinkRuns following
    else char :: shrinkRuns rest
termination_by text => text.length
decreasing_by
  · exact Nat.lt_succ_of_le (List.dropWhile_sublist _).length_le
  · exact Nat.lt_succ_self _

/-- The name in small letters with its runs of underscores shrunk. -/
def wordForm (name : String) : String :=
  String.ofList (shrinkRuns (name.toList.map Char.toLower))

/-- The text with those underscores only that stand right before a letter. -/
def keepSeparators : List Char → List Char
  | [] => []
  | char :: rest =>
    if char = '_' ∧ ¬ rest.head?.any Char.isAlpha then keepSeparators rest
    else char :: keepSeparators rest

/-- A capital letter as an underscore and the small letter; any other character as it is. -/
def splitCapital (char : Char) : List Char :=
  if char.isUpper then ['_', char.toLower] else [char]

/-- What a small letter or another character becomes at the start of a word. A letter is told from
its capital, and nothing else has one. -/
structure HasCapital (char : Char) : Prop where
  small : splitCapital char = [char]
  letter : char.isAlpha → (toUpper char).flatMap splitCapital = ['_', char]
  other : ¬ char.isAlpha → toUpper char = [char]

instance (char : Char) : Decidable (HasCapital char) :=
  decidable_of_iff
    (splitCapital char = [char] ∧
      (char.isAlpha → (toUpper char).flatMap splitCapital = ['_', char]) ∧
      (¬ char.isAlpha → toUpper char = [char]))
    ⟨fun ⟨hsmall, hletter, hother⟩ => ⟨hsmall, hletter, hother⟩,
      fun ⟨hsmall, hletter, hother⟩ => ⟨hsmall, hletter, hother⟩⟩

theorem hasCapital_toLower {char : Char} (hascii : isAscii char) : HasCapital char.toLower :=
  forall_isAscii (fun char => HasCapital char.toLower) (by decide +kernel) hascii

/-! ## Shrunk runs -/

theorem keepSeparators_two_underscores (rest : List Char) :
    keepSeparators ('_' :: '_' :: rest) = keepSeparators ('_' :: rest) := by
  have hloose : ¬ ('_' :: rest).head?.any Char.isAlpha := Bool.false_ne_true
  rw [keepSeparators, if_pos ⟨rfl, hloose⟩]

theorem keepSeparators_of_ne {char : Char} (hchar : char ≠ '_') (rest : List Char) :
    keepSeparators (char :: rest) = char :: keepSeparators rest :=
  if_neg fun hboth => hchar hboth.1

/-- Of a run of underscores at most the last one is kept. -/
theorem keepSeparators_underscore (rest : List Char) :
    keepSeparators ('_' :: rest) =
      (if (rest.dropWhile (· == '_')).head?.any Char.isAlpha then ['_'] else []) ++
        keepSeparators (rest.dropWhile (· == '_')) := by
  induction rest with
  | nil => rfl
  | cons char rest ih =>
    by_cases hchar : char = '_'
    · rw [hchar, List.dropWhile_cons_of_pos (by rfl), keepSeparators_two_underscores, ih]
    · rw [List.dropWhile_cons_of_neg (by simpa using hchar), keepSeparators]
      by_cases hletter : char.isAlpha <;> simp [hletter]

theorem shrinkRuns_eq_keepSeparators (text : List Char) : shrinkRuns text = keepSeparators text := by
  fun_induction shrinkRuns text with
  | case1 => rfl
  | case2 rest following ih =>
    rw [keepSeparators_underscore, ih]
  | case3 char rest hchar ih =>
    rw [ih, keepSeparators_of_ne hchar]

/-! ## Joined words -/

/-- Without a letter at the start it makes no difference whether a word begins there. -/
theorem joinWords_eq_of_no_letter {text : List Char} (htext : ∀ char ∈ text, HasCapital char)
    (hhead : ¬ text.head?.any Char.isAlpha) : joinWords true text = joinWords false text := by
  cases text with
  | nil => rfl
  | cons char rest =>
    rw [joinWords, joinWords]
    split
    next => rfl
    next =>
      have hupper := (htext char List.mem_cons_self).other (by simpa using hhead)
      rw [if_pos rfl, hupper]
      rfl

/-- Underscores that stand before no letter separate no words. -/
theorem joinWords_keepSeparators {text : List Char} (htext : ∀ char ∈ text, HasCapital char)
    (wordStart : Bool) :
    joinWords wordStart (keepSeparators text) = joinWords wordStart text := by
  induction text generalizing wordStart with
  | nil => rfl
  | cons char rest ih =>
    obtain ⟨hchar, hrest⟩ := List.forall_mem_cons.mp htext
    rw [keepSeparators]
    split
    next hloose =>
      rw [joinWords, if_pos hloose.1, ih hrest]
      cases wordStart with
      | false => exact (joinWords_eq_of_no_letter hrest hloose.2).symm
      | true => rfl
    next => rw [joinWords, joinWords, ih hrest, ih hrest]

/-- The words can be read back from the joined text. -/
theorem flatMap_splitCapital_joinWords {text : List Char} (htext : ∀ char ∈ text, HasCapital char)
    (wordStart : Bool) :
    (joinWords wordStart text).flatMap splitCapital =
      keepSeparators (if wordStart then '_' :: text else text) := by
  induction text generalizing wordStart with
  | nil => cases wordStart <;> rfl
  | cons char rest ih =>
    obtain ⟨hchar, hrest⟩ := List.forall_mem_cons.mp htext
    rw [joinWords]
    split
    next hunderscore =>
      rw [ih hrest, if_pos rfl, hunderscore]
      cases wordStart with
      | false => rfl
      | true => exact (keepSeparators_two_underscores rest).symm
    next hunderscore =>
      rw [List.flatMap_append, ih hrest]
      cases wordStart with
      | false => simp [keepSeparators_of_ne hunderscore, hchar.small]
      | true =>
        by_cases hletter : char.isAlpha
        · simp [keepSeparators, hunderscore, hletter, hchar.letter]
        · simp [keepSeparators, hunderscore, hletter, hchar.other, hchar.small]

theorem toList_camelCase_of_isAscii {name : String} (hascii : ∀ char ∈ name.toList, isAscii char) :
    (camelCase name).toList = joinWords false (name.toList.map Char.toLower) := by
  rw [camelCase, String.toList_ofList, camelCaseChars, lowercase_of_isAscii hascii]

theorem toList_wordForm (name : String) :
    (wordForm name).toList = keepSeparators (name.toList.map Char.toLower) := by
  rw [wordForm, String.toList_ofList, shrinkRuns_eq_keepSeparators]

/-- Names of ASCII characters have the same accessor name exactly if they are the same in small
letters once their runs of underscores are shrunk. -/
theorem camelCase_eq_iff_wordForm_eq {first second : String}
    (hfirst : ∀ char ∈ first.toList, isAscii char)
    (hsecond : ∀ char ∈ second.toList, isAscii char) :
    camelCase first = camelCase second ↔ wordForm first = wordForm second := by
  have hcapital {name : String} (hascii : ∀ char ∈ name.toList, isAscii char) :
      ∀ char ∈ name.toList.map Char.toLower, HasCapital char :=
    List.forall_mem_map.mpr fun char hchar => hasCapital_toLower (hascii char hchar)
  rw [← String.toList_inj, ← String.toList_inj, toList_camelCase_of_isAscii hfirst,
    toList_camelCase_of_isAscii hsecond, toList_wordForm, toList_wordForm]
  constructor
  · intro hjoined
    have hread := congrArg (List.flatMap splitCapital) hjoined
    rwa [flatMap_splitCapital_joinWords (hcapital hfirst),
      flatMap_splitCapital_joinWords (hcapital hsecond)] at hread
  · intro hkept
    rw [← joinWords_keepSeparators (hcapital hfirst), hkept,
      joinWords_keepSeparators (hcapital hsecond)]

/-- Case, doubled underscores, and underscores before a digit or at the end make no difference; an
underscore before the first letter does. -/
theorem camelCase_eq_iff_wordForm_eq_of_retryNames :
    (∀ name ∈ ["MAX__RETRY_2_", "max_retry2", "_max_retry2"],
        ∀ char ∈ name.toList, isAscii char) ∧
      camelCase "MAX__RETRY_2_" = camelCase "max_retry2" ∧
        camelCase "_max_retry2" ≠ camelCase "max_retry2" := by
  have hascii : ∀ name ∈ ["MAX__RETRY_2_", "max_retry2", "_max_retry2"],
      ∀ char ∈ name.toList, isAscii char := by
    simp only [← List.all_eq_true]
    decide
  have hsame : wordForm "MAX__RETRY_2_" = wordForm "max_retry2" := by
    rw [← String.toList_inj, toList_wordForm, toList_wordForm]
    decide
  have hother : wordForm "_max_retry2" ≠ wordForm "max_retry2" := by
    rw [Ne, ← String.toList_inj, toList_wordForm, toList_wordForm]
    decide
  exact ⟨hascii,
    (camelCase_eq_iff_wordForm_eq (hascii _ (by decide)) (hascii _ (by decide))).mpr hsame,
    (camelCase_eq_iff_wordForm_eq (hascii _ (by decide)) (hascii _ (by decide))).not.mpr hother⟩

end PrefAccessors.Name
