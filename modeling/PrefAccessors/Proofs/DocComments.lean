import Mathlib.Algebra.Ring.Nat
import Mathlib.Data.List.Infix
import PrefAccessors.Wrapper.Layout

/-! # Documentation comments

Documentation is text from declarations, and it may hold the mark that ends a comment.
Where it does, the slash of the mark is written in another way. No line of a comment
gains the mark from what is put around its text, since the star in front of the text
is followed by a space, and no mark reaches over a line end. The comment therefore
ends where its last line says.
-/

namespace PrefAccessors.Wrapper

/-! ## Places of a mark -/

/-- The number of places in the text at which the mark stands. -/
def occurrences (mark text : List Char) : Nat := text.tails.countP mark.isPrefixOf

section

variable {mark : List Char} {separator : Char}

theorem occurrences_nil : occurrences mark [] = if mark.isPrefixOf [] then 1 else 0 :=
  List.countP_singleton

theorem occurrences_cons (char : Char) (rest : List Char) :
    occurrences mark (char :: rest) =
      occurrences mark rest + if mark.isPrefixOf (char :: rest) then 1 else 0 := by
  rw [occurrences, List.tails_cons, List.countP_cons, occurrences]

/-- A mark does not reach over a character that it does not hold. -/
theorem isPrefixOf_append_cons (hseparator : separator ∉ mark) (first second : List Char) :
    mark.isPrefixOf (first ++ separator :: second) = mark.isPrefixOf first := by
  induction first generalizing mark with
  | nil =>
    cases mark with
    | nil => rfl
    | cons char mark =>
      have hne : char ≠ separator := fun heq => hseparator (heq ▸ List.mem_cons_self)
      simp [List.isPrefixOf, hne]
  | cons head first ih =>
    cases mark with
    | nil => rfl
    | cons char mark =>
      have hrest : separator ∉ mark := fun hmem => hseparator (List.mem_cons_of_mem char hmem)
      rw [List.cons_append, List.isPrefixOf, ih hrest, List.isPrefixOf]

/-- The places of a mark are counted apart on both sides of such a character. -/
theorem occurrences_append_cons (hseparator : separator ∉ mark) (first second : List Char) :
    occurrences mark (first ++ separator :: second) =
      occurrences mark first + occurrences mark second := by
  induction first with
  | nil =>
    have hnone := isPrefixOf_append_cons hseparator [] second
    rw [List.nil_append] at hnone ⊢
    rw [occurrences_cons, hnone, occurrences_nil, Nat.add_comm]
  | cons char first ih =>
    have hsame := isPrefixOf_append_cons hseparator (char :: first) second
    rw [List.cons_append] at hsame ⊢
    rw [occurrences_cons, ih, hsame, occurrences_cons]
    omega

end

/-! ## The mark that ends a comment -/

/-- The mark that ends a comment. -/
def commentEnd : List Char := ['*', '/']

theorem head?_maskCommentEnd (text : List Char) :
    (maskCommentEnd text).head? = text.head? := by
  fun_cases maskCommentEnd text <;> rfl

/-- Masking leaves no comment end, and makes none of what stood beside one. -/
theorem occurrences_maskCommentEnd (text : List Char) :
    occurrences commentEnd (maskCommentEnd text) = 0 := by
  fun_induction maskCommentEnd text with
  | case1 rest ih =>
    have hmask : '*' :: '&' :: '#' :: '4' :: '7' :: ';' :: maskCommentEnd rest =
        ['*', '&', '#', '4', '7'] ++ ';' :: maskCommentEnd rest := rfl
    rw [hmask, occurrences_append_cons (by decide), ih]
    decide
  | case2 char rest hother ih =>
    rw [occurrences_cons, ih, if_neg]
    intro hstarts
    obtain ⟨masked, hmasked⟩ := List.isPrefixOf_iff_prefix.mp hstarts
    obtain ⟨rfl, hrest⟩ := List.cons.inj hmasked
    -- The slash behind the star was there before, so that the pair would be masked.
    have hslash : rest.head? = some '/' := by
      rw [← head?_maskCommentEnd, ← hrest]
      rfl
    obtain ⟨after, rfl⟩ := List.head?_eq_some_iff.mp hslash
    exact hother after rfl rfl
  | case3 => rfl

theorem mem_of_mem_maskCommentEnd {char : Char} (hchar : char ∉ "*&#47;".toList) {text : List Char}
    (hmem : char ∈ maskCommentEnd text) : char ∈ text := by
  fun_induction maskCommentEnd text with
  | case1 rest ih =>
    have hmask : '*' :: '&' :: '#' :: '4' :: '7' :: ';' :: maskCommentEnd rest =
        "*&#47;".toList ++ maskCommentEnd rest := rfl
    rw [hmask, List.mem_append] at hmem
    exact List.mem_cons_of_mem _ (List.mem_cons_of_mem _ (ih (hmem.resolve_left hchar)))
  | case2 other rest _ ih =>
    rcases List.mem_cons.mp hmem with rfl | hrest
    · exact List.mem_cons_self
    · exact List.mem_cons_of_mem other (ih hrest)
  | case3 => cases hmem

theorem occurrences_docLine (text : List Char) :
    occurrences commentEnd (docLine text).toList = 0 := by
  unfold docLine
  split
  next => decide
  next =>
    have hstart : (" * " ++ String.ofList (maskCommentEnd text)).toList =
        [' ', '*'] ++ ' ' :: maskCommentEnd text := by
      simp
    rw [hstart, occurrences_append_cons (by decide), occurrences_maskCommentEnd]
    decide

/-! ## The lines of a text -/

theorem feed_notMem_of_mem_lines {text line : List Char} (hline : line ∈ Text.lines text) :
    '\n' ∉ line := by
  fun_induction Text.lines text generalizing line with
  | case1 => cases hline
  | case2 rest ih =>
    rcases List.mem_cons.mp hline with rfl | hline
    · exact List.not_mem_nil
    · exact ih hline
  | case3 rest _ ih =>
    rcases List.mem_cons.mp hline with rfl | hline
    · exact List.not_mem_nil
    · exact ih hline
  | case4 char rest _ hchar ih =>
    have hfirst (first : List Char) (hnone : '\n' ∉ first) : '\n' ∉ char :: first :=
      List.not_mem_cons_of_ne_of_not_mem (Ne.symm hchar) hnone
    cases hlines : Text.lines rest with
    | nil =>
      rw [hlines, Text.extendFirstLine, List.mem_singleton] at hline
      exact hline ▸ hfirst [] List.not_mem_nil
    | cons first later =>
      rw [hlines, Text.extendFirstLine] at hline
      rw [hlines] at ih
      rcases List.mem_cons.mp hline with rfl | hline
      · exact hfirst first (ih List.mem_cons_self)
      · exact ih (List.mem_cons_of_mem first hline)

theorem feed_notMem_docLine {text line : List Char} (hline : line ∈ Text.lines text) :
    '\n' ∉ (docLine line).toList := by
  unfold docLine
  split
  next => decide
  next =>
    rw [String.toList_append, String.toList_ofList, List.mem_append, not_or]
    refine ⟨by decide, fun hmem => feed_notMem_of_mem_lines hline ?_⟩
    rw [String.toList_ofList] at hmem
    exact mem_of_mem_maskCommentEnd (by decide) hmem

theorem star_isPrefix_docLine (text : List Char) : " *".toList <+: (docLine text).toList := by
  unfold docLine
  split
  next => exact List.prefix_rfl
  next =>
    rw [String.toList_append]
    exact ⟨' ' :: _, rfl⟩

/-! ## Laid-out lines -/

/-- The spaces in front of a line that is not empty. -/
def margin (indent depth : Nat) : List Char := List.replicate (indent * depth) ' '

/-- The characters of a line with its margin, up to the line end. -/
def Line.chars (indent : Nat) (line : Line) : List Char :=
  if line.text.isEmpty then [] else margin indent line.depth ++ line.text.toList

theorem toList_renderLines (indent : Nat) (lines : List Line) :
    (renderLines indent lines).toList =
      (lines.map (Line.chars indent)).flatMap (· ++ ['\n']) := by
  have hline (line : Line) : (line.render indent).toList = line.chars indent ++ ['\n'] := by
    unfold Line.render Line.chars
    split <;> simp [margin]
  rw [renderLines, String.toList_join, List.flatMap_map, List.flatMap_map]
  exact List.flatMap_congr fun line _ => hline line

theorem Line.chars_of_ne {indent depth : Nat} {text : String} (hne : text ≠ "") :
    (Line.mk depth text).chars indent = margin indent depth ++ text.toList := by
  have hnonempty : ¬ text.isEmpty := by simpa using hne
  rw [chars, if_neg hnonempty]

theorem feed_notMem_margin_append (indent depth : Nat) {text : List Char} (htext : '\n' ∉ text) :
    '\n' ∉ margin indent depth ++ text := by
  rw [List.mem_append, not_or]
  exact ⟨fun hmem => absurd (List.eq_of_mem_replicate hmem) (by decide), htext⟩

theorem occurrences_lineChars (indent : Nat) (line : Line) :
    occurrences commentEnd (line.chars indent) = occurrences commentEnd line.text.toList := by
  unfold Line.chars
  split
  next hempty => rw [String.isEmpty_iff.mp hempty]; rfl
  next =>
    unfold margin
    induction indent * line.depth with
    | zero => rfl
    | succ count ih =>
      rw [List.replicate_succ, List.cons_append, occurrences_cons, ih]
      rfl

/-- No mark reaches over the end of a line. -/
theorem occurrences_flatMap_feed (lines : List (List Char)) :
    occurrences commentEnd (lines.flatMap (· ++ ['\n'])) =
      (lines.map (occurrences commentEnd)).sum := by
  induction lines with
  | nil => rfl
  | cons line lines ih =>
    rw [List.flatMap_cons, List.append_assoc, List.singleton_append,
      occurrences_append_cons (by decide), ih, List.map_cons, List.sum_cons]

theorem occurrences_renderLines (indent : Nat) (lines : List Line) :
    occurrences commentEnd (renderLines indent lines).toList =
      (lines.map fun line => occurrences commentEnd line.text.toList).sum := by
  rw [toList_renderLines, occurrences_flatMap_feed, List.map_map]
  exact congrArg List.sum (List.map_congr_left fun line _ => occurrences_lineChars indent line)

/-! ## The comment -/

theorem map_chars_javadocLines (indent depth : Nat) (text : String) :
    (javadocLines depth text).map (Line.chars indent) =
      (margin indent depth ++ "/**".toList) ::
        (Text.lines text.toList).map (fun line => margin indent depth ++ (docLine line).toList) ++
          [margin indent depth ++ " */".toList] := by
  have hinner (line : List Char) : (Line.mk depth (docLine line)).chars indent =
      margin indent depth ++ (docLine line).toList := by
    apply Line.chars_of_ne
    intro hempty
    have hstar := star_isPrefix_docLine line
    rw [hempty] at hstar
    exact absurd (List.prefix_nil.mp hstar) (by decide)
  simp only [javadocLines, docComment, List.map_cons, List.map_append, List.map_map, List.map_nil,
    Function.comp_def, hinner]
  rw [Line.chars_of_ne (by decide), Line.chars_of_ne (by decide)]

/-- Of the lines of a documentation comment only the last one has the mark. -/
theorem occurrences_javadocLines (indent depth : Nat) (text : String) :
    occurrences commentEnd (renderLines indent (javadocLines depth text)).toList = 1 := by
  have hinner : (Text.lines text.toList).map
        (fun line => occurrences commentEnd (docLine line).toList) =
      (Text.lines text.toList).map fun _ => 0 :=
    List.map_congr_left fun line _ => occurrences_docLine line
  have hfirst : occurrences commentEnd "/**".toList = 0 := by decide
  have hlast : occurrences commentEnd " */".toList = 1 := by decide
  rw [occurrences_renderLines, javadocLines, docComment]
  simp only [List.map_cons, List.map_append, List.map_map, List.map_nil, Function.comp_def,
    List.sum_cons, List.sum_append, List.sum_nil, hinner, hfirst, hlast]
  simp

/-- A documentation comment opens on its first line and ends on its last one, and nowhere else is
the mark that ends a comment. Every line in between belongs to a line of the text and begins with a
star behind the margin. -/
theorem occurrences_commentEnd_render_javadoc (indent depth : Nat) (text : String) :
    ∃ inner : List (List Char),
      ((Step.javadoc text).render indent depth).toList =
        ((margin indent depth ++ "/**".toList) :: inner ++
          [margin indent depth ++ " */".toList]).flatMap (· ++ ['\n']) ∧
      (∀ line ∈ inner, '\n' ∉ line ∧ margin indent depth ++ " *".toList <+: line) ∧
      inner.length = (Text.lines text.toList).length ∧
      occurrences "*/".toList ((Step.javadoc text).render indent depth).toList = 1 := by
  refine ⟨(Text.lines text.toList).map fun line => margin indent depth ++ (docLine line).toList,
    ?_, ?_, List.length_map _, occurrences_javadocLines indent depth text⟩
  · rw [← map_chars_javadocLines]
    exact toList_renderLines indent (javadocLines depth text)
  · rw [List.forall_mem_map]
    intro line hline
    exact ⟨feed_notMem_margin_append indent depth (feed_notMem_docLine hline),
      (List.prefix_append_right_inj _).mpr (star_isPrefix_docLine line)⟩

end PrefAccessors.Wrapper
