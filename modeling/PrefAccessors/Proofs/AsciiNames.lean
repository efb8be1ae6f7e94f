import Mathlib.Data.List.Basic
import PrefAccessors.Name

/-! # Names that begin in ASCII

The case mappings of ASCII characters are those of the ASCII letters. A name that
begins with an ASCII character other than an underscore has this character, in
lower case, at the start of its accessor name. Capitalisation keeps such accessor
names apart.
-/

namespace PrefAccessors

open Text

/-- Whether the character is in ASCII. -/
def isAscii (char : Char) : Bool := char.toNat < 128

theorem forall_isAscii (property : Char → Prop)
    (hproperty : ∀ code < 128, property (Char.ofNat code)) {char : Char} (hascii : isAscii char) :
    property char := by
  have hcode := hproperty char.toNat (of_decide_eq_true hascii)
  rwa [Char.ofNat_toNat] at hcode

/-- What the case mappings do with a character of ASCII: they map it as a letter of ASCII, and no
underscore comes of it. -/
structure HasAsciiCase (char : Char) : Prop where
  toLower : toLower char = [char.toLower]
  toUpper : toUpper char = [char.toUpper]
  isAscii_toLower : isAscii char.toLower
  toLower_toUpper_toLower : char.toLower.toUpper.toLower = char.toLower
  toLower_ne_underscore : char ≠ '_' → char.toLower ≠ '_'

instance (char : Char) : Decidable (HasAsciiCase char) :=
  decidable_of_iff
    (Text.toLower char = [char.toLower] ∧ Text.toUpper char = [char.toUpper] ∧
      isAscii char.toLower ∧ char.toLower.toUpper.toLower = char.toLower ∧
      (char ≠ '_' → char.toLower ≠ '_'))
    ⟨fun ⟨hlower, hupper, hascii, hreturn, hne⟩ => ⟨hlower, hupper, hascii, hreturn, hne⟩,
      fun ⟨hlower, hupper, hascii, hreturn, hne⟩ => ⟨hlower, hupper, hascii, hreturn, hne⟩⟩

theorem hasAsciiCase {char : Char} (hascii : isAscii char) : HasAsciiCase char :=
  forall_isAscii HasAsciiCase (by decide +kernel) hascii

/-- Sigma is the only character whose lower case depends on what stands around it. -/
theorem lowerBetween_of_isAscii {char : Char} (hascii : isAscii char) (before after : List Char) :
    lowerBetween before char after = [char.toLower] := by
  have hsigma : char ≠ 'Σ' := by
    rintro rfl
    exact absurd hascii (by decide)
  rw [lowerBetween, if_neg hsigma, (hasAsciiCase hascii).toLower]

theorem lowercaseAfter_of_isAscii {text : List Char} (hascii : ∀ char ∈ text, isAscii char)
    (before : List Char) : lowercaseAfter before text = text.map Char.toLower := by
  induction text generalizing before with
  | nil => rfl
  | cons char rest ih =>
    rw [List.forall_mem_cons] at hascii
    rw [lowercaseAfter, lowerBetween_of_isAscii hascii.1, ih hascii.2, List.map_cons,
      List.singleton_append]

/-- An ASCII text is lower-cased character by character. -/
theorem lowercase_of_isAscii {text : List Char} (hascii : ∀ char ∈ text, isAscii char) :
    lowercase text = text.map Char.toLower := lowercaseAfter_of_isAscii hascii []

namespace Name

/-- Whether the name begins with an ASCII character other than an underscore. -/
def beginsPlainly (name : String) : Bool :=
  name.toList.head?.any fun first => isAscii first && first != '_'

/-- The first character of such a name is lower-cased and no more. -/
theorem camelCase_of_beginsPlainly {name : String} (hname : beginsPlainly name) :
    ∃ first rest, isAscii first ∧ (camelCase name).toList = first.toLower :: rest := by
  obtain ⟨first, hfirst, hplain⟩ := (Option.any_eq_true _ _).mp hname
  obtain ⟨hascii, hne⟩ := Bool.and_eq_true_iff.mp hplain
  rw [bne_iff_ne] at hne
  obtain ⟨rest, hchars⟩ := List.head?_eq_some_iff.mp hfirst
  have hlower : lowercase name.toList = first.toLower :: lowercaseAfter [first] rest := by
    rw [hchars, lowercase, lowercaseAfter, lowerBetween_of_isAscii hascii, List.singleton_append]
  refine ⟨first, joinWords false (lowercaseAfter [first] rest), hascii, ?_⟩
  rw [Name.camelCase, String.toList_ofList, camelCaseChars, hlower, joinWords,
    if_neg ((hasAsciiCase hascii).toLower_ne_underscore hne)]
  rfl

theorem capitalize_injective_of_beginsPlainly {first second : String}
    (hfirst : beginsPlainly first) (hsecond : beginsPlainly second)
    (heq : capitalize (Name.camelCase first) = capitalize (Name.camelCase second)) :
    Name.camelCase first = Name.camelCase second := by
  obtain ⟨firstChar, firstRest, hfirstAscii, hfirst⟩ := camelCase_of_beginsPlainly hfirst
  obtain ⟨secondChar, secondRest, hsecondAscii, hsecond⟩ := camelCase_of_beginsPlainly hsecond
  have hfirstCase := hasAsciiCase hfirstAscii
  have hsecondCase := hasAsciiCase hsecondAscii
  have hchars := String.ofList_injective heq
  rw [hfirst, hsecond, capitalizeChars, capitalizeChars,
    (hasAsciiCase hfirstCase.isAscii_toLower).toUpper,
    (hasAsciiCase hsecondCase.isAscii_toLower).toUpper] at hchars
  obtain ⟨hupper, hrest⟩ := List.cons.inj hchars
  have hlower : firstChar.toLower = secondChar.toLower := by
    rw [← hfirstCase.toLower_toUpper_toLower, hupper, hsecondCase.toLower_toUpper_toLower]
  rw [← String.toList_inj, hfirst, hsecond, hlower]
  exact congrArg _ hrest

end Name

end PrefAccessors
