import PrefAccessors.Proofs.AsciiNames
import PrefAccessors.Proofs.Identifiers
import PrefAccessors.Sample

/-! # Names in sample documents

The name of a sample entry has the position of the entry in decimal notation, with
a word before it and the words of the type behind it. The accessor name keeps the
digits but loses the underscores around them. It still begins with letters and goes
on with letters behind the digits, so it tells the position.
-/

namespace PrefAccessors

open Text

/-! ## Digits -/

theorem isAscii_of_isDigit {char : Char} (hdigit : char.isDigit) : isAscii char := by
  simp only [Char.isDigit, Bool.and_eq_true, decide_eq_true_eq] at hdigit
  have hlast : char.toNat ≤ 57 := hdigit.2
  exact decide_eq_true (by omega)

/-- Digits have no case, and stand anywhere in an identifier but at its start. -/
theorem forall_isDigit {char : Char} (hdigit : char.isDigit) :
    char.toLower = char ∧ toUpper char = [char] ∧ char ≠ '_' ∧ Name.isIdentifierPart char :=
  forall_isAscii
    (fun char => char.isDigit →
      char.toLower = char ∧ toUpper char = [char] ∧ char ≠ '_' ∧ Name.isIdentifierPart char)
    (by decide +kernel) (isAscii_of_isDigit hdigit) hdigit

theorem joinWords_false_digits {digits : List Char} (hdigits : ∀ char ∈ digits, char.isDigit)
    (rest : List Char) :
    Name.joinWords false (digits ++ rest) = digits ++ Name.joinWords false rest := by
  induction digits with
  | nil => rfl
  | cons digit digits ih =>
    rw [List.forall_mem_cons] at hdigits
    obtain ⟨_, _, hne, _⟩ := forall_isDigit hdigits.1
    rw [List.cons_append, Name.joinWords, if_neg hne, ih hdigits.2]
    rfl

/-- A word that begins with digits is joined as it is. -/
theorem joinWords_digits {digits : List Char} (hdigits : ∀ char ∈ digits, char.isDigit)
    (hne : digits ≠ []) (rest : List Char) :
    Name.joinWords true (digits ++ rest) = digits ++ Name.joinWords false rest := by
  obtain ⟨first, digits, rfl⟩ := List.exists_cons_of_ne_nil hne
  rw [List.forall_mem_cons] at hdigits
  obtain ⟨_, hupper, hfirst, _⟩ := forall_isDigit hdigits.1
  rw [List.cons_append, Name.joinWords, if_neg hfirst, joinWords_false_digits hdigits.2, hupper]
  rfl

theorem isDigit_of_mem_toDigits_ten {number : Nat} :
    ∀ char ∈ Nat.toDigits 10 number, char.isDigit := fun _ =>
  Nat.isDigit_of_mem_toDigits (by decide) (by decide)

/-- A number in decimal notation can be read off before anything that is no digit. -/
theorem toDigits_append_inj {first second : Nat} {firstRest secondRest : List Char}
    (hfirst : firstRest.takeWhile Char.isDigit = [])
    (hsecond : secondRest.takeWhile Char.isDigit = [])
    (heq : Nat.toDigits 10 first ++ firstRest = Nat.toDigits 10 second ++ secondRest) :
    first = second := by
  have hread (number : Nat) {rest : List Char} (hrest : rest.takeWhile Char.isDigit = []) :
      (Nat.toDigits 10 number ++ rest).takeWhile Char.isDigit = Nat.toDigits 10 number := by
    rw [List.takeWhile_append_of_pos isDigit_of_mem_toDigits_ten, hrest, List.append_nil]
  have hdigits : Nat.toDigits 10 first = Nat.toDigits 10 second := by
    rw [← hread first hfirst, heq, hread second hsecond]
  calc
    first = Nat.ofDigitChars 10 (Nat.toDigits 10 first) 0 := Nat.ofDigitChars_ten_toDigits.symm
    _ = Nat.ofDigitChars 10 (Nat.toDigits 10 second) 0 := by rw [hdigits]
    _ = second := Nat.ofDigitChars_ten_toDigits

namespace Sample

/-! ## Accessor names -/

/-- What the type of an entry gives to its accessor name. -/
def typeWords (type : ValueType) : List Char := Name.joinWords true type.spelling.toList

theorem toList_entryName (position : Nat) :
    (entryName position).toList = "SETTING_".toList ++ (Nat.toDigits 10 position ++
      '_' :: (entryType position).spelling.toList.map Char.toUpper) := by
  simp [entryName, Nat.toList_repr]

/-- The name of an entry has nothing but digits and the characters of the two words. -/
theorem forall_mem_entryName {property : Char → Prop}
    (hword : ∀ char ∈ "SETTING_".toList, property char)
    (hdigit : ∀ char : Char, char.isDigit → property char)
    (htype : ∀ type : ValueType,
      ∀ char ∈ '_' :: type.spelling.toList.map Char.toUpper, property char)
    (position : Nat) : ∀ char ∈ (entryName position).toList, property char := by
  rw [toList_entryName, List.forall_mem_append, List.forall_mem_append]
  exact ⟨hword, fun char hmem => hdigit char (isDigit_of_mem_toDigits_ten char hmem), htype _⟩

theorem isAscii_of_mem_entryName (position : Nat) :
    ∀ char ∈ (entryName position).toList, isAscii char := by
  apply forall_mem_entryName
  · exact List.all_eq_true.mp (by decide)
  · exact fun char => isAscii_of_isDigit
  · intro type
    cases type <;> exact List.all_eq_true.mp (by decide)

theorem lowercase_entryName (position : Nat) :
    lowercase (entryName position).toList = "setting_".toList ++
      (Nat.toDigits 10 position ++ '_' :: (entryType position).spelling.toList) := by
  have hdigits : (Nat.toDigits 10 position).map Char.toLower = Nat.toDigits 10 position :=
    (List.map_congr_left fun char hmem =>
      (forall_isDigit (isDigit_of_mem_toDigits_ten char hmem)).1).trans (List.map_id _)
  have htype (type : ValueType) :
      ('_' :: type.spelling.toList.map Char.toUpper).map Char.toLower =
        '_' :: type.spelling.toList := by
    cases type <;> decide
  have hword : "SETTING_".toList.map Char.toLower = "setting_".toList := by decide
  rw [lowercase_of_isAscii (isAscii_of_mem_entryName position), toList_entryName, List.map_append,
    List.map_append, hdigits, htype, hword]

theorem toList_camelCase_entryName (position : Nat) :
    (Name.camelCase (entryName position)).toList = "setting".toList ++
      (Nat.toDigits 10 position ++ typeWords (entryType position)) := by
  have hword (rest : List Char) : Name.joinWords false ("setting_".toList ++ rest) =
      "setting".toList ++ Name.joinWords true rest := rfl
  have htype (type : ValueType) :
      Name.joinWords false ('_' :: type.spelling.toList) = typeWords type := rfl
  rw [Name.camelCase, String.toList_ofList, Name.camelCaseChars, lowercase_entryName, hword,
    joinWords_digits isDigit_of_mem_toDigits_ten Nat.toDigits_ne_nil, htype]

example : Name.camelCase (entryName 11) = "setting11StringSet" := by decide +kernel

/-- The words of a type begin with a letter, so that the digits before them end there. -/
theorem takeWhile_isDigit_typeWords (type : ValueType) :
    (typeWords type).takeWhile Char.isDigit = [] := by
  cases type <;> decide

/-- The accessor name tells the position. -/
theorem camelCase_entryName_injective {first second : Nat}
    (heq : Name.camelCase (entryName first) = Name.camelCase (entryName second)) :
    first = second := by
  rw [← String.toList_inj, toList_camelCase_entryName, toList_camelCase_entryName,
    List.append_right_inj] at heq
  exact toDigits_append_inj (takeWhile_isDigit_typeWords _) (takeWhile_isDigit_typeWords _) heq

theorem isIdentifier_camelCase_entryName (position : Nat) :
    Name.isIdentifier (Name.camelCase (entryName position)) := by
  have hdigits : (Nat.toDigits 10 position).all Name.isIdentifierPart :=
    List.all_eq_true.mpr fun char hmem =>
      (forall_isDigit (isDigit_of_mem_toDigits_ten char hmem)).2.2.2
  have htype (type : ValueType) : (typeWords type).all Name.isIdentifierPart := by
    cases type <;> decide
  have hword : Name.isIdentifierChars "setting".toList := by decide
  rw [Name.isIdentifier, toList_camelCase_entryName,
    Name.isIdentifierChars_append (by decide), List.all_append, Bool.and_eq_true_iff]
  exact ⟨hword, hdigits, htype _⟩

end Sample

end PrefAccessors
