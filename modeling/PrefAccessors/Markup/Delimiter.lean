/-! # Delimiters

What separates the parts of a marked-up text: blanks between names and
attributes, the two quotation marks around values, and closing marks of several
characters. A closing mark is always looked for at its first occurrence.
-/

namespace PrefAccessors.Markup

/-- Whether the character separates the parts of a tag. Only these four are blank in markup. -/
def isSpace (char : Char) : Bool :=
  char == ' ' || char == '\t' || char == '\r' || char == '\n'

/-- The two marks that can enclose an attribute value. -/
inductive Quote
  | single
  | double
  deriving DecidableEq, Repr

def Quote.char : Quote → Char
  | single => '\''
  | double => '"'

/-- The quotation mark that the character is, if it is one. -/
def Quote.ofChar? (char : Char) : Option Quote :=
  if char = '\'' then some .single else if char = '"' then some .double else none

/-- A text cut in two, with one more character at its start. -/
def prependToCut (char : Char) (cut : List Char × List Char) : List Char × List Char :=
  (char :: cut.1, cut.2)

/-- The text before the first occurrence of a mark and the text after it. -/
def cutAt? (mark : List Char) : List Char → Option (List Char × List Char)
  | [] => if mark.isEmpty then some ([], []) else none
  | char :: rest =>
    if mark.isPrefixOf (char :: rest) then some ([], (char :: rest).drop mark.length)
    else (cutAt? mark rest).map (prependToCut char)

/-- Nothing is lost where a text is cut. -/
theorem cutAt?_eq_some {mark text before after : List Char}
    (hcut : cutAt? mark text = some (before, after)) : text = before ++ mark ++ after := by
  induction text generalizing before with
  | nil =>
    simp only [cutAt?] at hcut
    split at hcut
    next => simp_all
    next => simp at hcut
  | cons char rest ih =>
    simp only [cutAt?] at hcut
    split at hcut
    next hprefix =>
      obtain ⟨rfl, rfl⟩ := Prod.mk.inj (Option.some.inj hcut)
      simpa using (List.prefix_iff_eq_append.mp (List.isPrefixOf_iff_prefix.mp hprefix)).symm
    next =>
      cases hrest : cutAt? mark rest with
      | none => simp [hrest] at hcut
      | some pair =>
        obtain ⟨inner, outer⟩ := pair
        simp only [hrest, Option.map_some, prependToCut, Option.some.injEq, Prod.mk.injEq] at hcut
        obtain ⟨rfl, rfl⟩ := hcut
        simp [ih hrest]

theorem cutAt?_length {mark text before after : List Char}
    (hcut : cutAt? mark text = some (before, after)) : after.length ≤ text.length := by
  simp [cutAt?_eq_some hcut]
  omega

/-- A mark of one character is found behind a text without it. -/
theorem cutAt?_singleton {mark : Char} {before : List Char} (hbefore : mark ∉ before)
    (rest : List Char) : cutAt? [mark] (before ++ mark :: rest) = some (before, rest) := by
  induction before with
  | nil => simp [cutAt?]
  | cons char before ih =>
    rw [List.mem_cons, not_or] at hbefore
    have hprefix : [mark].isPrefixOf (char :: (before ++ mark :: rest)) = false := by
      simp [List.isPrefixOf, hbefore.1]
    rw [List.cons_append, cutAt?, hprefix, ih hbefore.2]
    rfl

end PrefAccessors.Markup
