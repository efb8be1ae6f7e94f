import PrefAccessors.Proofs.CapitalLetters

/-! # Names joined at underscores

An underscore cuts a name into parts that are joined independently of each other. The
lower case of a capital sigma depends on what stands around it, but an underscore is
neither case-ignorable nor cased, so the search for a cased letter ends there without
one, just as at the end of a text. No other character has an underscore in its upper
case, so none is left in an accessor name.
-/

namespace PrefAccessors.Text

/-! ## Characters to which no other is mapped -/

/-- Whether the code point is in no longer image of the mapping and beside the images of its
runs. -/
def CaseMapping.isolates (mapping : CaseMapping) (point : Nat) : Bool :=
  mapping.expansions.all (fun entry => !entry.2.contains point) &&
    mapping.runs.all fun run => point < run.image || run.image + (run.last - run.first) < point

/-- The number of a character other than the null character, which also stands for the numbers that
are no code points. -/
theorem eq_toNat_of_eq_ofNat {char : Char} {code : Nat} (hchar : char = Char.ofNat code)
    (hpositive : 0 < char.toNat) : code = char.toNat := by
  subst hchar
  by_cases hvalid : code.isValidChar
  · have hvalue : Char.ofNat code = Char.ofNatAux code hvalid := dif_pos hvalid
    rw [hvalue]
    rfl
  · have hnull : Char.ofNat code = '\x00' := dif_neg hvalid
    rw [hnull] at hpositive
    exact absurd hpositive (by decide)

/-- Only the character itself is mapped to an isolated one. -/
theorem CaseMapping.eq_of_mem_apply {mapping : CaseMapping} {char image : Char}
    (hisolated : mapping.isolates image.toNat) (hpositive : 0 < image.toNat)
    (hmem : image ∈ mapping.apply char) : char = image := by
  obtain ⟨hexpansions, hruns⟩ := Bool.and_eq_true_iff.mp hisolated
  unfold apply at hmem
  split at hmem
  next codes hsome =>
    obtain ⟨code, hmem, heq⟩ := List.mem_map.mp hmem
    rw [eq_toNat_of_eq_ofNat heq.symm hpositive] at hmem
    have hentry := List.all_eq_true.mp hexpansions _ (mem_of_expansion?_eq_some hsome)
    rw [Bool.not_eq_true', List.contains_eq_mem, decide_eq_false_iff_not] at hentry
    exact absurd hmem hentry
  next =>
    have hshift := eq_toNat_of_eq_ofNat (List.mem_singleton.mp hmem) hpositive
    rcases @shift_eq_or mapping.runs char.toNat with hsame | ⟨run, hrun, offset, hlast, _, heq⟩
    · exact Char.toNat_inj.mp (hsame.symm.trans hshift)
    · have hbeside := List.all_eq_true.mp hruns run hrun
      rw [Bool.or_eq_true, decide_eq_true_eq, decide_eq_true_eq] at hbeside
      omega

/-! ## Lower case around an underscore -/

/-- The search for a cased character ends at an underscore as at the end of the text. -/
theorem meetsCased_append_underscore (text rest : List Char) :
    meetsCased (text ++ '_' :: rest) = meetsCased text := by
  induction text with
  | nil =>
    have hpassed : isCaseIgnorable '_' = false := by decide
    have hcased : isCased '_' = false := by decide
    simp [meetsCased, hpassed, hcased]
  | cons char text ih => rw [List.cons_append, meetsCased, ih, meetsCased]

theorem lowerBetween_append_underscore (before after : List Char) (char : Char)
    (outside : List Char) :
    lowerBetween (before ++ '_' :: outside) char after = lowerBetween before char after ∧
      lowerBetween before char (after ++ '_' :: outside) = lowerBetween before char after := by
  simp only [lowerBetween, meetsCased_append_underscore, and_self]

/-- What stands before an underscore makes no difference behind it. -/
theorem lowercaseAfter_underscore (outside before text : List Char) :
    lowercaseAfter (before ++ '_' :: outside) text = lowercaseAfter before text := by
  induction text generalizing before with
  | nil => rfl
  | cons char rest ih =>
    rw [lowercaseAfter, (lowerBetween_append_underscore before rest char outside).1,
      ← List.cons_append, ih, lowercaseAfter]

/-- What stands behind an underscore makes no difference before it. -/
theorem lowercaseAfter_append_underscore (before first second : List Char) :
    lowercaseAfter before (first ++ '_' :: second) =
      lowercaseAfter before first ++ '_' :: lowercase second := by
  induction first generalizing before with
  | nil =>
    have hunderscore : lowerBetween before '_' second = ['_'] := rfl
    have hsecond : lowercaseAfter ('_' :: before) second = lowercase second :=
      lowercaseAfter_underscore before [] second
    simp [lowercaseAfter, hunderscore, hsecond]
  | cons char rest ih =>
    rw [List.cons_append, lowercaseAfter, (lowerBetween_append_underscore before rest char second).2,
      ih, lowercaseAfter, List.append_assoc]

theorem lowercase_append_underscore (first second : List Char) :
    lowercase (first ++ '_' :: second) = lowercase first ++ '_' :: lowercase second :=
  lowercaseAfter_append_underscore [] first second

theorem lowercase_underscore (text : List Char) :
    lowercase ('_' :: text) = '_' :: lowercase text := lowercase_append_underscore [] text

end PrefAccessors.Text

namespace PrefAccessors.Name

open Text

/-! ## Joined words -/

theorem joinWords_append_underscore (wordStart : Bool) (first second : List Char) :
    joinWords wordStart (first ++ '_' :: second) =
      joinWords wordStart first ++ joinWords true second := by
  induction first generalizing wordStart with
  | nil => rfl
  | cons char rest ih =>
    rw [List.cons_append, joinWords, joinWords, ih, ih]
    split
    next => rfl
    next => rw [List.append_assoc]

theorem eq_underscore_of_mem_toUpper {char : Char} (hmem : '_' ∈ toUpper char) : char = '_' :=
  CaseMapping.eq_of_mem_apply (by decide +kernel) (by decide) hmem

theorem underscore_notMem_joinWords (wordStart : Bool) (text : List Char) :
    '_' ∉ joinWords wordStart text := by
  induction text generalizing wordStart with
  | nil => exact List.not_mem_nil
  | cons char rest ih =>
    rw [joinWords]
    split
    next => exact ih true
    next hchar =>
      rw [List.mem_append, not_or]
      refine ⟨fun hmem => ?_, ih false⟩
      split at hmem
      next => exact hchar (eq_underscore_of_mem_toUpper hmem)
      next => exact hchar (List.mem_singleton.mp hmem).symm

theorem camelCaseChars_underscore (text : List Char) :
    camelCaseChars ('_' :: text) = joinWords true (lowercase text) := by
  rw [camelCaseChars, lowercase_underscore]
  rfl

theorem camelCaseChars_append_underscore (first second : List Char) :
    camelCaseChars (first ++ '_' :: second) =
      camelCaseChars first ++ camelCaseChars ('_' :: second) := by
  rw [camelCaseChars, lowercase_append_underscore, joinWords_append_underscore,
    camelCaseChars_underscore, camelCaseChars]

theorem camelCaseChars_two_underscores (text : List Char) :
    camelCaseChars ('_' :: '_' :: text) = camelCaseChars ('_' :: text) := by
  rw [camelCaseChars_underscore, lowercase_underscore, camelCaseChars_underscore]
  rfl

/-- The accessor name of a name is that of its part before an underscore and that of the rest
from the underscore on. An underscore at the end, or behind another one, changes nothing, and no
underscore is left. -/
theorem camelCase_append_underscore (first second : String) :
    camelCase (first ++ "_" ++ second) = camelCase first ++ camelCase ("_" ++ second) ∧
      camelCase (first ++ "_") = camelCase first ∧
      camelCase (first ++ "__" ++ second) = camelCase (first ++ "_" ++ second) ∧
      '_' ∉ (camelCase first).toList := by
  have hchars (name : String) : (camelCase name).toList = camelCaseChars name.toList :=
    String.toList_ofList
  simp only [← String.toList_inj, hchars, String.toList_append, List.append_assoc]
  refine ⟨?_, ?_, ?_, underscore_notMem_joinWords false _⟩
  · exact camelCaseChars_append_underscore first.toList second.toList
  · exact (camelCaseChars_append_underscore first.toList []).trans (List.append_nil _)
  · calc
      camelCaseChars (first.toList ++ '_' :: '_' :: second.toList)
          = camelCaseChars first.toList ++ camelCaseChars ('_' :: '_' :: second.toList) :=
        camelCaseChars_append_underscore _ _
      _ = camelCaseChars first.toList ++ camelCaseChars ('_' :: second.toList) := by
        rw [camelCaseChars_two_underscores]
      _ = camelCaseChars (first.toList ++ '_' :: second.toList) :=
        (camelCaseChars_append_underscore _ _).symm

/-- The sigma before the underscore ends a word, and the one behind it begins one. -/
example : camelCase "ΟΔΟΣ_ΣΑΣ" = "οδοςΣας" := by decide +kernel

end PrefAccessors.Name
