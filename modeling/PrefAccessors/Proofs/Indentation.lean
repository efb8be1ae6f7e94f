import Mathlib.Data.List.Infix
import PrefAccessors.Proofs.ClassLayout
import PrefAccessors.Proofs.DocComments

/-! # Indentation

Source is written step by step: lines at the depth of the block in which they stand, blocks that
open and close, and whole methods. What a writer adds does not depend on what it has written
before. If the steps close no block that they did not open, then at a greater depth they add the
same text with spaces in front of every line that is not empty, and they lead to the depth that
the opened and the closed blocks tell.
-/

namespace PrefAccessors.Wrapper

/-! ## Writers -/

/-- A writer of source text: what it has written, and the depth of the block in which it stands. -/
structure Writer where
  indent : Nat
  output : String
  depth : Nat
  deriving DecidableEq, Repr

namespace Writer

/-- Writes lines behind the text that is there. -/
def write (writer : Writer) (lines : List Line) : Writer :=
  { writer with output := writer.output ++ renderLines writer.indent lines }

/-- Writes a line at the current depth. -/
def writeLine (writer : Writer) (text : String) : Writer := writer.write [⟨writer.depth, text⟩]

def writeLines (writer : Writer) (texts : List String) : Writer := texts.foldl writeLine writer

def writeStatement (writer : Writer) (text : String) : Writer := writer.writeLine (text ++ ";")

def writeJavadoc (writer : Writer) (text : String) : Writer := writer.writeLines (docComment text)

def openBlock (writer : Writer) (header : String) : Writer :=
  { writer.writeLine (header ++ " \x7b") with depth := writer.depth + 1 }

def closeBlock (writer : Writer) : Writer :=
  { writer with depth := writer.depth - 1 }.writeLine "\x7d"

/-- Writes the documentation of a method and its block. -/
def writeMethod (writer : Writer) (method : Method) : Writer :=
  let documented := (method.doc?.map writer.writeJavadoc).getD writer
  (method.body.foldl writeStatement (documented.openBlock method.signature)).closeBlock

/-- Performs a step. -/
def perform (writer : Writer) : Step → Writer
  | .line text => writer.writeLine text
  | .blank => writer.writeLine ""
  | .statement text => writer.writeStatement text
  | .javadoc text => writer.writeJavadoc text
  | .openBlock header => writer.openBlock header
  | .closeBlock => writer.closeBlock
  | .method accessor => writer.writeMethod accessor

/-- Performs steps one after the other. -/
def performAll (writer : Writer) (steps : List Step) : Writer := steps.foldl perform writer

section

variable (writer : Writer)

theorem write_nil : writer.write [] = writer := by
  simp [write, renderLines]

theorem write_write (first second : List Line) :
    (writer.write first).write second = writer.write (first ++ second) := by
  simp [write, renderLines_append, String.append_assoc]

theorem writeLines_eq (texts : List String) :
    writer.writeLines texts = writer.write (texts.map (Line.mk writer.depth)) := by
  induction texts generalizing writer with
  | nil => exact writer.write_nil.symm
  | cons text rest ih =>
    rw [writeLines, List.foldl_cons, ← writeLines, ih, writeLine, write_write]
    rfl

theorem foldl_writeStatement (texts : List String) :
    texts.foldl writeStatement writer =
      writer.write (texts.map (statementLine writer.depth)) := by
  have hlines := writer.writeLines_eq (texts.map (· ++ ";"))
  rw [writeLines, List.foldl_map, List.map_map] at hlines
  exact hlines

/-- A method is written at the depth at which its block opens and closes. -/
theorem writeMethod_eq (method : Method) :
    writer.writeMethod method = writer.write (method.lines writer.depth) := by
  have hdocumented : (method.doc?.map writer.writeJavadoc).getD writer =
      writer.write ((method.doc?.map (javadocLines writer.depth)).getD []) := by
    cases method.doc? with
    | none => exact writer.write_nil.symm
    | some doc => exact writer.writeLines_eq (docComment doc)
  have hlines : method.lines writer.depth =
      (method.doc?.map (javadocLines writer.depth)).getD [] ++
        ([openingLine writer.depth method.signature] ++
          (method.body.map (statementLine (writer.depth + 1)) ++ [closingLine writer.depth])) := by
    simp [Method.lines]
  rw [writeMethod, hdocumented, foldl_writeStatement, hlines, ← write_write, ← write_write,
    ← write_write]
  rfl

/-- A step adds its lines to the text, and leads to another depth. -/
theorem perform_eq (step : Step) :
    writer.perform step =
      { writer.write (step.lines writer.depth) with depth := step.depthAfter writer.depth } := by
  cases step with
  | javadoc text => exact writer.writeLines_eq (docComment text)
  | method accessor => exact writer.writeMethod_eq accessor
  | _ => rfl

end

end Writer

/-! ## The lines of steps -/

/-- The lines that steps add one after the other, from a depth on. -/
def stepLines (depth : Nat) : List Step → List Line
  | [] => []
  | step :: rest => step.lines depth ++ stepLines (step.depthAfter depth) rest

theorem join_stepTexts (indent depth : Nat) (steps : List Step) :
    String.join (stepTexts indent depth steps) = renderLines indent (stepLines depth steps) := by
  induction steps generalizing depth with
  | nil => rfl
  | cons step rest ih =>
    rw [stepTexts, String.join_cons, ih, stepLines, renderLines_append, Step.render]

theorem renderSteps_eq (indent : Nat) (steps : List Step) :
    renderSteps indent steps = renderLines indent (stepLines 0 steps) :=
  join_stepTexts indent 0 steps

/-- What a writer adds depends on its indentation and its depth, not on what it has written. -/
theorem Writer.performAll_eq (writer : Writer) (steps : List Step) :
    writer.performAll steps =
      { writer.write (stepLines writer.depth steps) with
        depth := depthAfterSteps writer.depth steps } := by
  induction steps generalizing writer with
  | nil => exact writer.write_nil.symm
  | cons step rest ih =>
    rw [performAll, List.foldl_cons, ← performAll, ih, perform_eq, stepLines, ← write_write]
    rfl

/-! ## Open blocks -/

/-- Whether the step opens a block that it does not close. -/
def Step.opensBlock : Step → Bool
  | openBlock _ => true
  | _ => false

/-- Whether the step closes a block that it did not open. -/
def Step.closesBlock : Step → Bool
  | closeBlock => true
  | _ => false

def openedBlocks (steps : List Step) : Nat := steps.countP Step.opensBlock

def closedBlocks (steps : List Step) : Nat := steps.countP Step.closesBlock

/-- No beginning of the steps closes more blocks than it has opened. -/
def ClosesOwnBlocks (steps : List Step) : Prop :=
  ∀ start, start <+: steps → closedBlocks start ≤ openedBlocks start

instance (steps : List Step) : Decidable (ClosesOwnBlocks steps) :=
  decidable_of_iff (∀ start ∈ steps.inits, closedBlocks start ≤ openedBlocks start) <|
    forall_congr' fun start => by rw [List.mem_inits]

/-- No beginning of the steps closes more blocks than it has opened and as many as are open. -/
def ClosesOpenBlocks (depth : Nat) (steps : List Step) : Prop :=
  ∀ start, start <+: steps → closedBlocks start ≤ depth + openedBlocks start

section

variable {depth : Nat} {step : Step} {rest : List Step}

theorem ClosesOpenBlocks.pos (hsteps : ClosesOpenBlocks depth (step :: rest))
    (hcloses : step.closesBlock) : 0 < depth := by
  have hfirst := hsteps [step] ((List.prefix_cons_inj step).mpr List.nil_prefix)
  cases step with
  | closeBlock => exact hfirst
  | _ => cases hcloses

/-- A step changes the depth by the block that it opens or closes. -/
theorem Step.depthAfter_add_closed (hcloses : step.closesBlock → 0 < depth) :
    step.depthAfter depth + (if step.closesBlock then 1 else 0) =
      depth + if step.opensBlock then 1 else 0 := by
  cases step with
  | closeBlock => exact Nat.sub_add_cancel (hcloses rfl)
  | _ => rfl

/-- After a step as many blocks are open as its depth tells. -/
theorem ClosesOpenBlocks.tail (hsteps : ClosesOpenBlocks depth (step :: rest)) :
    ClosesOpenBlocks (step.depthAfter depth) rest := by
  intro start hstart
  have hnext := hsteps (step :: start) ((List.prefix_cons_inj step).mpr hstart)
  have hstep := Step.depthAfter_add_closed hsteps.pos
  rw [closedBlocks, openedBlocks, List.countP_cons, List.countP_cons] at hnext
  rw [closedBlocks, openedBlocks]
  omega

theorem ClosesOpenBlocks.depthAfterSteps_add_closed {steps : List Step}
    (hsteps : ClosesOpenBlocks depth steps) :
    depthAfterSteps depth steps + closedBlocks steps = depth + openedBlocks steps := by
  -- With the closed blocks on the left no difference is cut off at zero.
  induction steps generalizing depth with
  | nil => rfl
  | cons step rest ih =>
    have hrest := ih hsteps.tail
    have hstep := Step.depthAfter_add_closed hsteps.pos
    rw [depthAfterSteps, closedBlocks, openedBlocks] at hrest ⊢
    rw [List.foldl_cons, List.countP_cons, List.countP_cons]
    omega

/-! ## Deeper lines -/

/-- The line at a greater depth. -/
def Line.deepen (extra : Nat) (line : Line) : Line := { line with depth := extra + line.depth }

theorem javadocLines_add (extra depth : Nat) (text : String) :
    javadocLines (extra + depth) text = (javadocLines depth text).map (Line.deepen extra) := by
  rw [javadocLines, javadocLines, List.map_map]
  rfl

theorem Method.lines_add (extra depth : Nat) (method : Method) :
    method.lines (extra + depth) = (method.lines depth).map (Line.deepen extra) := by
  have hdoc : (method.doc?.map (javadocLines (extra + depth))).getD [] =
      ((method.doc?.map (javadocLines depth)).getD []).map (Line.deepen extra) := by
    cases method.doc? with
    | none => rfl
    | some doc => exact javadocLines_add extra depth doc
  rw [lines, lines, hdoc, List.map_append, List.map_append, List.map_cons, List.map_map]
  rfl

/-- A step that closes no block before the first adds the same lines at a greater depth. -/
theorem Step.lines_add (extra : Nat) (hcloses : step.closesBlock → 0 < depth) :
    step.lines (extra + depth) = (step.lines depth).map (Line.deepen extra) := by
  cases step with
  | javadoc text => exact javadocLines_add extra depth text
  | method accessor => exact accessor.lines_add extra depth
  | closeBlock => simp [lines, closingLine, Line.deepen, Nat.add_sub_assoc (hcloses rfl)]
  | _ => rfl

theorem Step.depthAfter_add (extra : Nat) (hcloses : step.closesBlock → 0 < depth) :
    step.depthAfter (extra + depth) = extra + step.depthAfter depth := by
  cases step with
  | closeBlock => exact Nat.add_sub_assoc (hcloses rfl) extra
  | _ => rfl

theorem ClosesOpenBlocks.stepLines_add {steps : List Step} (hsteps : ClosesOpenBlocks depth steps)
    (extra : Nat) :
    stepLines (extra + depth) steps = (stepLines depth steps).map (Line.deepen extra) := by
  induction steps generalizing depth with
  | nil => rfl
  | cons step rest ih =>
    rw [stepLines, step.lines_add extra hsteps.pos, step.depthAfter_add extra hsteps.pos,
      ih hsteps.tail, stepLines, List.map_append]

end

/-! ## Texts line by line -/

/-- A line with spaces in front of it, unless it is empty. -/
def indentLine (width : Nat) (line : List Char) : List Char :=
  if line.isEmpty then [] else List.replicate width ' ' ++ line

/-- The text with spaces in front of every line that is not empty. -/
def indentText (width : Nat) (text : String) : String :=
  String.ofList (['\n'].intercalate ((text.toList.splitOn '\n').map (indentLine width)))

/-- Lines with their ends are lines with line ends between them and nothing behind the last. -/
theorem flatMap_feed_eq_intercalate (lines : List (List Char)) :
    lines.flatMap (· ++ ['\n']) = ['\n'].intercalate (lines ++ [[]]) := by
  induction lines with
  | nil => rfl
  | cons line rest ih =>
    rw [List.flatMap_cons, ih, List.cons_append, List.intercalate_cons_of_ne_nil (by simp)]

theorem toList_indentText {width : Nat} {text : String} {lines : List (List Char)}
    (hfeed : ∀ line ∈ lines, '\n' ∉ line) (htext : text.toList = lines.flatMap (· ++ ['\n'])) :
    (indentText width text).toList = (lines.map (indentLine width)).flatMap (· ++ ['\n']) := by
  have hsplit : text.toList.splitOn '\n' = lines ++ [[]] := by
    rw [htext, flatMap_feed_eq_intercalate]
    refine List.splitOn_intercalate '\n' (fun line hline => ?_) (by simp)
    rcases List.mem_append.mp hline with hline | hline
    · exact hfeed line hline
    · rw [List.mem_singleton.mp hline]
      exact List.not_mem_nil
  rw [indentText, String.toList_ofList, hsplit, flatMap_feed_eq_intercalate, List.map_append]
  rfl

theorem Line.chars_deepen (indent extra : Nat) (line : Line) :
    (line.deepen extra).chars indent = indentLine (indent * extra) (line.chars indent) := by
  have hmargin : margin indent (extra + line.depth) =
      List.replicate (indent * extra) ' ' ++ margin indent line.depth := by
    rw [margin, margin, Nat.mul_add, List.replicate_add]
  unfold chars indentLine deepen
  split
  next => rfl
  next htext =>
    have hchars : ¬ (margin indent line.depth ++ line.text.toList).isEmpty := by
      simpa using fun _ => htext
    rw [if_neg hchars, hmargin, List.append_assoc]

theorem renderLines_deepen (indent extra : Nat) {lines : List Line}
    (hfeed : ∀ line ∈ lines, '\n' ∉ line.text.toList) :
    renderLines indent (lines.map (Line.deepen extra)) =
      indentText (indent * extra) (renderLines indent lines) := by
  have hchars : ∀ chars ∈ lines.map (Line.chars indent), '\n' ∉ chars := by
    rw [List.forall_mem_map]
    intro line hline
    unfold Line.chars
    split
    next => exact List.not_mem_nil
    next => exact feed_notMem_margin_append indent line.depth (hfeed line hline)
  apply String.toList_injective
  rw [toList_indentText hchars (toList_renderLines indent lines), toList_renderLines, List.map_map,
    List.map_map]
  simp only [Function.comp_def, Line.chars_deepen]

/-! ## Texts inside lines -/

/-- The texts of a method other than its documentation. -/
def Method.texts (method : Method) : List String :=
  method.name :: method.returnType.javaType ::
    (method.parameters.map Parameter.name ++ method.body)

/-- The texts of a step other than documentation. -/
def Step.texts : Step → List String
  | line text | statement text => [text]
  | openBlock header => [header]
  | method accessor => accessor.texts
  | blank | javadoc _ | closeBlock => []

/-- No text of the step other than documentation holds a line end. -/
def Step.IsInline (step : Step) : Prop := ∀ text ∈ step.texts, '\n' ∉ text.toList

instance (step : Step) : Decidable step.IsInline :=
  inferInstanceAs (Decidable (∀ text ∈ step.texts, '\n' ∉ text.toList))

theorem notMem_intercalate {separator : List Char} {char : Char} (hseparator : char ∉ separator)
    {texts : List (List Char)} (htexts : ∀ text ∈ texts, char ∉ text) :
    char ∉ separator.intercalate texts := by
  induction texts with
  | nil => exact List.not_mem_nil
  | cons text rest ih =>
    rw [List.forall_mem_cons] at htexts
    by_cases hrest : rest = []
    · simpa [hrest] using htexts.1
    · rw [List.intercalate_cons_of_ne_nil hrest, List.mem_append, List.mem_append, not_or, not_or]
      exact ⟨⟨htexts.1, hseparator⟩, ih htexts.2⟩

theorem feed_notMem_signature {method : Method}
    (hinline : ∀ text ∈ method.texts, '\n' ∉ text.toList) : '\n' ∉ method.signature.toList := by
  simp only [Method.texts, List.forall_mem_cons, List.forall_mem_append, List.forall_mem_map]
    at hinline
  obtain ⟨hname, htype, hparameters, _⟩ := hinline
  have hlist : '\n' ∉ (", ".intercalate (method.parameters.map fun parameter =>
      parameter.type.javaType ++ " " ++ parameter.name)).toList := by
    rw [String.toList_intercalate]
    refine notMem_intercalate (by decide) ?_
    simp only [List.forall_mem_map, String.toList_append, List.mem_append, not_or]
    intro parameter hparameter
    refine ⟨⟨?_, by decide⟩, hparameters parameter hparameter⟩
    cases parameter.type <;> decide
  simp only [Method.signature, String.toList_append, List.mem_append, not_or]
  exact ⟨⟨⟨⟨⟨⟨by decide, htype⟩, by decide⟩, hname⟩, by decide⟩, hlist⟩, by decide⟩

theorem feed_notMem_javadocLines (depth : Nat) (text : String) :
    ∀ line ∈ javadocLines depth text, '\n' ∉ line.text.toList := by
  simp only [javadocLines, docComment, List.forall_mem_map, List.forall_mem_append,
    List.forall_mem_cons]
  exact ⟨⟨by decide, fun line hline => feed_notMem_docLine hline⟩, by decide,
    List.forall_mem_nil _⟩

theorem Step.IsInline.feed_notMem_lines {step : Step} (hinline : step.IsInline) (depth : Nat) :
    ∀ line ∈ step.lines depth, '\n' ∉ line.text.toList := by
  have hopening (header : String) (hheader : '\n' ∉ header.toList) :
      '\n' ∉ (openingLine depth header).text.toList := by
    simpa [openingLine] using hheader
  have hstatement (depth : Nat) (text : String) (htext : '\n' ∉ text.toList) :
      '\n' ∉ (statementLine depth text).text.toList := by
    simpa [statementLine] using htext
  have hclosing (depth : Nat) : '\n' ∉ (closingLine depth).text.toList :=
    show '\n' ∉ "\x7d".toList by decide
  cases step with
  | line text => exact List.forall_mem_singleton.mpr (hinline text (List.mem_singleton_self text))
  | blank => exact List.forall_mem_singleton.mpr List.not_mem_nil
  | statement text =>
    exact List.forall_mem_singleton.mpr
      (hstatement depth text (hinline text (List.mem_singleton_self text)))
  | javadoc text => exact feed_notMem_javadocLines depth text
  | openBlock header =>
    exact List.forall_mem_singleton.mpr
      (hopening header (hinline header (List.mem_singleton_self header)))
  | closeBlock => exact List.forall_mem_singleton.mpr (hclosing (depth - 1))
  | method accessor =>
    have hbody : ∀ text ∈ accessor.body, '\n' ∉ text.toList := fun text htext =>
      hinline text (by simp [texts, Method.texts, htext])
    simp only [lines, Method.lines, List.forall_mem_append, List.forall_mem_cons,
      List.forall_mem_map]
    refine ⟨⟨?_, hopening _ (feed_notMem_signature hinline), fun text htext =>
      hstatement _ text (hbody text htext)⟩, hclosing depth, List.forall_mem_nil _⟩
    cases accessor.doc? with
    | none => exact List.forall_mem_nil _
    | some doc => exact feed_notMem_javadocLines depth doc

theorem feed_notMem_stepLines {steps : List Step} (hinline : ∀ step ∈ steps, step.IsInline)
    (depth : Nat) : ∀ line ∈ stepLines depth steps, '\n' ∉ line.text.toList := by
  induction steps generalizing depth with
  | nil => exact fun line hline => absurd hline List.not_mem_nil
  | cons step rest ih =>
    rw [List.forall_mem_cons] at hinline
    rw [stepLines, List.forall_mem_append]
    exact ⟨hinline.1.feed_notMem_lines depth, ih hinline.2 _⟩

/-! ## Runs of a writer -/

/-- If the steps close only blocks that they opened, and no text but documentation holds a line
end, then a writer adds what it would add at depth zero, with spaces for its depth in front of
every line that is not empty, whatever it has written before. Its depth changes by the opened and
the closed blocks, and not by a method. -/
theorem performAll_outcome (writer : Writer) {steps : List Step} (hcloses : ClosesOwnBlocks steps)
    (hinline : ∀ step ∈ steps, step.IsInline) :
    (Writer.performAll { writer with depth := 0 } steps).output =
        writer.output ++ renderSteps writer.indent steps ∧
      (writer.performAll steps).output =
        writer.output ++
          indentText (writer.indent * writer.depth) (renderSteps writer.indent steps) ∧
      (writer.performAll steps).depth =
        writer.depth + openedBlocks steps - closedBlocks steps ∧
      ∀ method, (writer.perform (.method method)).depth = writer.depth := by
  have hopen (depth : Nat) : ClosesOpenBlocks depth steps := fun start hstart =>
    (hcloses start hstart).trans (Nat.le_add_left _ depth)
  have hlines := (hopen 0).stepLines_add writer.depth
  rw [Nat.add_zero] at hlines
  refine ⟨?_, ?_, ?_, fun method => ?_⟩
  · rw [Writer.performAll_eq, renderSteps_eq]
    rfl
  · rw [Writer.performAll_eq, renderSteps_eq, hlines, ← renderLines_deepen _ _
      (feed_notMem_stepLines hinline 0)]
    rfl
  · have hdepth := (hopen writer.depth).depthAfterSteps_add_closed
    rw [Writer.performAll_eq]
    exact Nat.eq_sub_of_add_eq hdepth
  · rw [Writer.perform_eq]
    rfl

/-- Steps that close blocks in between, with an empty line and a documented method. -/
def nestedSteps : List Step := [
  .openBlock "class Outer",
  .openBlock "class Inner",
  .method {
    name := "size"
    returnType := .value .integer
    body := ["return 1"]
    doc? := some "the size\n\nof all */" },
  .closeBlock,
  .blank,
  .statement "int count",
  .closeBlock]

theorem performAll_outcome_of_nestedSteps :
    ClosesOwnBlocks nestedSteps ∧ (∀ step ∈ nestedSteps, step.IsInline) ∧
      (Writer.performAll ⟨2, "package a;\n", 3⟩ nestedSteps).output =
        "package a;\n" ++ indentText 6 (renderSteps 2 nestedSteps) ∧
      (Writer.performAll ⟨2, "package a;\n", 3⟩ nestedSteps).depth = 3 := by
  have hcloses : ClosesOwnBlocks nestedSteps := by decide
  have hinline : ∀ step ∈ nestedSteps, step.IsInline := by decide
  obtain ⟨_, houtput, hdepth, _⟩ := performAll_outcome ⟨2, "package a;\n", 3⟩ hcloses hinline
  exact ⟨hcloses, hinline, houtput, hdepth⟩

end PrefAccessors.Wrapper
