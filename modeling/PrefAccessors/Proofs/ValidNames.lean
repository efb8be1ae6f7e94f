import PrefAccessors.Proofs.AsciiNames
import PrefAccessors.Proofs.HiddenProblems
import PrefAccessors.Proofs.Identifiers

/-! # Valid names

Resolution checks the accessor name and not the name as it is declared. Joining the
words of a name changes the case of letters and deletes underscores, and for ASCII
characters neither letter case nor an underscore decides what an identifier may hold.
A name of ASCII characters is therefore valid exactly if what is left of it without
its underscores is an identifier: letters, digits and dollar signs, at least one of
them, and no digit in front.
-/

namespace PrefAccessors

open Text

namespace Name

/-- The characters of the name but its underscores. -/
def withoutUnderscores (name : String) : List Char := name.toList.filter (· != '_')

/-- Whether the text is made of ASCII letters, digits and dollar signs, and begins with no
digit. -/
structure IsPlain (text : List Char) : Prop where
  nonempty : text ≠ []
  characters : ∀ char ∈ text, char.isAlpha ∨ char.isDigit ∨ char = '$'
  start : ¬ text.head?.any Char.isDigit

theorem isPlain_iff {text : List Char} :
    IsPlain text ↔
      text ≠ [] ∧ (text.all fun char => char.isAlpha || char.isDigit || char == '$') ∧
        ¬ text.head?.any Char.isDigit := by
  simp only [List.all_eq_true, Bool.or_eq_true, beq_iff_eq, or_assoc]
  exact ⟨fun ⟨hnonempty, hcharacters, hstart⟩ => ⟨hnonempty, hcharacters, hstart⟩,
    fun ⟨hnonempty, hcharacters, hstart⟩ => ⟨hnonempty, hcharacters, hstart⟩⟩

instance (text : List Char) : Decidable (IsPlain text) := decidable_of_iff _ isPlain_iff.symm

/-! ## Letter case -/

/-- Whether the predicate says the same of an ASCII character in either case. -/
def IsCaseBlind (view : Char → Bool) : Prop :=
  ∀ char, isAscii char → view char.toLower = view char ∧ view char.toLower.toUpper = view char

theorem isCaseBlind_isIdentifierStart : IsCaseBlind isIdentifierStart := fun _ hascii =>
  forall_isAscii
    (fun char => isIdentifierStart char.toLower = isIdentifierStart char ∧
      isIdentifierStart char.toLower.toUpper = isIdentifierStart char)
    (by decide +kernel) hascii

theorem isCaseBlind_isIdentifierPart : IsCaseBlind isIdentifierPart := fun _ hascii =>
  forall_isAscii
    (fun char => isIdentifierPart char.toLower = isIdentifierPart char ∧
      isIdentifierPart char.toLower.toUpper = isIdentifierPart char)
    (by decide +kernel) hascii

/-- A case-blind predicate sees the joined words as the text without its underscores. -/
theorem map_joinWords {view : Char → Bool} (hview : IsCaseBlind view) {text : List Char}
    (hascii : ∀ char ∈ text, isAscii char) (wordStart : Bool) :
    (joinWords wordStart (text.map Char.toLower)).map view =
      (text.filter (· != '_')).map view := by
  induction text generalizing wordStart with
  | nil => rfl
  | cons char rest ih =>
    rw [List.forall_mem_cons] at hascii
    have hcase := hasAsciiCase hascii.1
    obtain ⟨hlower, hupper⟩ := hview char hascii.1
    rw [List.map_cons, joinWords]
    by_cases hchar : char = '_'
    · rw [hchar, if_pos (by rfl), ih hascii.2, List.filter_cons_of_neg (by decide)]
    · have hkept : (char != '_') = true := bne_iff_ne.mpr hchar
      rw [if_neg (hcase.toLower_ne_underscore hchar), List.map_append, ih hascii.2,
        List.filter_cons_of_pos (p := (· != '_')) hkept, List.map_cons]
      cases wordStart with
      | false => rw [if_neg Bool.false_ne_true, List.map_singleton, hlower, List.singleton_append]
      | true =>
        rw [if_pos rfl, (hasAsciiCase hcase.isAscii_toLower).toUpper, List.map_singleton, hupper,
          List.singleton_append]

/-! ## Identifiers of ASCII characters -/

/-- An identifier is told by how its characters look to the two predicates. -/
theorem isIdentifierChars_iff_map {text : List Char} :
    isIdentifierChars text ↔
      (text.map isIdentifierStart).head?.any id ∧ (text.map isIdentifierPart).all id := by
  cases text with
  | nil => decide
  | cons first rest =>
    rw [isIdentifierChars_cons]
    simp only [List.map_cons, List.head?_cons, Option.any_some, id_eq, List.all_cons,
      Bool.and_eq_true, List.all_map, Function.id_comp]
    constructor
    · rintro ⟨hstart, hrest⟩
      exact ⟨hstart, isIdentifierPart_of_start hstart, hrest⟩
    · rintro ⟨hstart, -, hrest⟩
      exact ⟨hstart, hrest⟩

theorem isIdentifierStart_iff {char : Char} (hascii : isAscii char) (hchar : char ≠ '_') :
    isIdentifierStart char ↔ (char.isAlpha ∨ char.isDigit ∨ char = '$') ∧ ¬ char.isDigit :=
  forall_isAscii
    (fun char => char ≠ '_' → (isIdentifierStart char ↔
      (char.isAlpha ∨ char.isDigit ∨ char = '$') ∧ ¬ char.isDigit))
    (by decide +kernel) hascii hchar

theorem isIdentifierPart_iff {char : Char} (hascii : isAscii char) (hchar : char ≠ '_') :
    isIdentifierPart char ↔ char.isAlpha ∨ char.isDigit ∨ char = '$' :=
  forall_isAscii
    (fun char => char ≠ '_' → (isIdentifierPart char ↔
      char.isAlpha ∨ char.isDigit ∨ char = '$'))
    (by decide +kernel) hascii hchar

theorem isIdentifierChars_iff_isPlain {text : List Char}
    (hascii : ∀ char ∈ text, isAscii char) (hnone : ∀ char ∈ text, char ≠ '_') :
    isIdentifierChars text ↔ IsPlain text := by
  cases text with
  | nil => exact iff_of_false (by decide) fun hplain => hplain.nonempty rfl
  | cons first rest =>
    rw [List.forall_mem_cons] at hascii hnone
    have hrest : rest.all isIdentifierPart ↔
        ∀ char ∈ rest, char.isAlpha ∨ char.isDigit ∨ char = '$' := by
      rw [List.all_eq_true]
      exact forall₂_congr fun char hchar =>
        isIdentifierPart_iff (hascii.2 char hchar) (hnone.2 char hchar)
    rw [isIdentifierChars_cons, isIdentifierStart_iff hascii.1 hnone.1, hrest]
    constructor
    · rintro ⟨⟨hfirst, hdigit⟩, hlater⟩
      exact ⟨List.cons_ne_nil first rest, List.forall_mem_cons.mpr ⟨hfirst, hlater⟩, hdigit⟩
    · rintro ⟨-, hcharacters, hdigit⟩
      obtain ⟨hfirst, hlater⟩ := List.forall_mem_cons.mp hcharacters
      exact ⟨⟨hfirst, hdigit⟩, hlater⟩

theorem isIdentifier_camelCase_iff_isPlain {name : String}
    (hascii : ∀ char ∈ name.toList, isAscii char) :
    isIdentifier (camelCase name) ↔ IsPlain (withoutUnderscores name) := by
  have hleft : ∀ char ∈ withoutUnderscores name, isAscii char ∧ char ≠ '_' := by
    intro char hchar
    obtain ⟨hmem, hne⟩ := List.mem_filter.mp hchar
    exact ⟨hascii char hmem, bne_iff_ne.mp hne⟩
  rw [isIdentifier, camelCase, String.toList_ofList, camelCaseChars,
    lowercase_of_isAscii hascii, isIdentifierChars_iff_map,
    map_joinWords isCaseBlind_isIdentifierStart hascii,
    map_joinWords isCaseBlind_isIdentifierPart hascii, ← isIdentifierChars_iff_map]
  exact isIdentifierChars_iff_isPlain (fun char hchar => (hleft char hchar).1)
    fun char hchar => (hleft char hchar).2

end Name

/-! ## What resolution reports -/

/-- A name is reported as invalid only if its accessor name is no identifier. -/
theorem Group.not_isIdentifier_of_mem_reported {group : Group} {name accessor : String}
    (hmem : .invalidFieldName name accessor ∈ group.reported) :
    ¬ Name.isIdentifier (Name.camelCase name) := by
  rw [reported_eq_problems] at hmem
  obtain ⟨entry, _, rfl, rfl, hinvalid⟩ := isTrueOf_of_mem_problems hmem
  exact hinvalid

/-- The accessor name of a name of ASCII characters is an identifier exactly if the name without
its underscores is not empty, has only letters, digits and dollar signs, and begins with no digit.
Such names are never reported as invalid, and all others are reported wherever an entry with a
known type has them. -/
theorem isIdentifier_camelCase_iff {name : String}
    (hascii : ∀ char ∈ name.toList, isAscii char) :
    (Name.isIdentifier (Name.camelCase name) ↔ Name.IsPlain (Name.withoutUnderscores name)) ∧
    (Name.IsPlain (Name.withoutUnderscores name) →
      ∀ (group : Group) (accessor : String), .invalidFieldName name accessor ∉ group.reported) ∧
    (¬ Name.IsPlain (Name.withoutUnderscores name) →
      ∀ (group : Group), ∀ entry ∈ group.entries, entry.name = name →
        IsReadable entry.typeSpelling? →
          .invalidFieldName name (Name.camelCase name) ∈ group.reported) := by
  have hiff := Name.isIdentifier_camelCase_iff_isPlain hascii
  refine ⟨hiff, ?_, ?_⟩
  · intro hplain group accessor hmem
    exact Group.not_isIdentifier_of_mem_reported hmem (hiff.mpr hplain)
  · rintro hplain group entry hentry rfl hreadable
    rw [Group.reported_eq_problems]
    exact Group.invalidFieldName_mem_problems
      (Group.mem_withKnownTypes_iff.mpr ⟨hentry, hreadable⟩) fun hname => hplain (hiff.mp hname)

/-- A group whose names have their underscores in front of a letter, in front of a digit, and
nowhere else. -/
def underscoredGroup : Group := {
  name := "Player"
  entries := [{ name := "__HOME_$2" }, { name := "_2nd_volume" }, { name := "___" }] }

/-- Underscores in front of a name are no part of its accessor name: they do not make a digit
behind them valid, and a name of nothing else has none. -/
theorem isIdentifier_camelCase_of_underscoredGroup :
    (∀ entry ∈ underscoredGroup.entries, ∀ char ∈ entry.name.toList, isAscii char) ∧
      Name.isIdentifier (Name.camelCase "__HOME_$2") ∧
        (∀ accessor, .invalidFieldName "__HOME_$2" accessor ∉ underscoredGroup.reported) ∧
          .invalidFieldName "_2nd_volume" (Name.camelCase "_2nd_volume") ∈
            underscoredGroup.reported ∧
          .invalidFieldName "___" (Name.camelCase "___") ∈ underscoredGroup.reported := by
  have hascii : ∀ entry ∈ underscoredGroup.entries, ∀ char ∈ entry.name.toList, isAscii char := by
    simp only [← List.all_eq_true]
    decide
  have hhome : Name.IsPlain (Name.withoutUnderscores "__HOME_$2") := by decide
  have hsecond : ¬ Name.IsPlain (Name.withoutUnderscores "_2nd_volume") := by decide
  have hnone : ¬ Name.IsPlain (Name.withoutUnderscores "___") := by decide
  have hvalid := isIdentifier_camelCase_iff (hascii { name := "__HOME_$2" } (by decide))
  refine ⟨hascii, hvalid.1.mpr hhome, hvalid.2.1 hhome underscoredGroup, ?_, ?_⟩
  · have hentry : { name := "_2nd_volume" } ∈ underscoredGroup.entries := by decide
    exact (isIdentifier_camelCase_iff (hascii _ hentry)).2.2 hsecond _ _ hentry rfl (by decide)
  · have hentry : { name := "___" } ∈ underscoredGroup.entries := by decide
    exact (isIdentifier_camelCase_iff (hascii _ hentry)).2.2 hnone _ _ hentry rfl (by decide)

end PrefAccessors
