import Mathlib.Data.List.Basic
import PrefAccessors.Name

/-! # Identifiers

An identifier is a first character that can begin it, and further ones that can go
on with it. Whatever can begin an identifier can go on with it too, so identifiers
are cut and joined by their parts.
-/

namespace PrefAccessors.Name

theorem isIdentifierPart_of_start {char : Char} (hstart : isIdentifierStart char) :
    isIdentifierPart char := by
  simp only [isIdentifierStart, isIdentifierPart, Bool.or_eq_true] at hstart ⊢
  tauto

theorem isIdentifierChars_cons {first : Char} {rest : List Char} :
    isIdentifierChars (first :: rest) ↔ isIdentifierStart first ∧ rest.all isIdentifierPart :=
  Bool.and_eq_true_iff

theorem all_of_isIdentifierChars {text : List Char} (htext : isIdentifierChars text) :
    text.all isIdentifierPart := by
  cases text with
  | nil => rfl
  | cons first rest =>
    obtain ⟨hstart, hrest⟩ := isIdentifierChars_cons.mp htext
    rw [List.all_cons, isIdentifierPart_of_start hstart, hrest]
    rfl

/-- What stands behind an identifier must be made of identifier parts. -/
theorem isIdentifierChars_append {text more : List Char} (hne : text ≠ []) :
    isIdentifierChars (text ++ more) ↔ isIdentifierChars text ∧ more.all isIdentifierPart := by
  obtain ⟨first, rest, rfl⟩ := List.exists_cons_of_ne_nil hne
  rw [List.cons_append, isIdentifierChars_cons, isIdentifierChars_cons, List.all_append,
    Bool.and_eq_true_iff, and_assoc]

end PrefAccessors.Name
