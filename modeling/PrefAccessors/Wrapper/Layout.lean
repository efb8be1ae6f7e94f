import PrefAccessors.Text.Lines
import PrefAccessors.Wrapper.Method

/-! # Layout of Java source

Source text is laid out in steps. A step adds lines at the depth of the block in
which it stands, and it may open or close a block. A line is indented by its
depth unless it is empty.
-/

namespace PrefAccessors.Wrapper

/-- A line of source at a block depth. -/
structure Line where
  depth : Nat
  text : String
  deriving DecidableEq, Repr

/-- The text of a line, where each level of depth takes `indent` spaces. -/
def Line.render (indent : Nat) (line : Line) : String :=
  if line.text.isEmpty then "\n"
  else String.ofList (List.replicate (indent * line.depth) ' ') ++ line.text ++ "\n"

/-- The text of a sequence of lines. -/
def renderLines (indent : Nat) (lines : List Line) : String :=
  String.join (lines.map (Line.render indent))

theorem renderLines_append (indent : Nat) (first second : List Line) :
    renderLines indent (first ++ second) =
      renderLines indent first ++ renderLines indent second := by
  rw [renderLines, List.map_append, String.join_append, renderLines, renderLines]

/-- The text with every `*/` replaced by `*&#47;`, which shows the same and does not end a
comment. -/
def maskCommentEnd : List Char → List Char
  | '*' :: '/' :: rest => '*' :: '&' :: '#' :: '4' :: '7' :: ';' :: maskCommentEnd rest
  | char :: rest => char :: maskCommentEnd rest
  | [] => []

/-- A line inside a documentation comment. -/
def docLine (text : List Char) : String :=
  if text.isEmpty then " *" else " * " ++ String.ofList (maskCommentEnd text)

/-- The lines of a documentation comment, without indentation. -/
def docComment (text : String) : List String :=
  "/**" :: (Text.lines text.toList).map docLine ++ [" */"]

/-- The signature of a method. -/
def Method.signature (method : Method) : String :=
  let parameters := method.parameters.map fun parameter =>
    parameter.type.javaType ++ " " ++ parameter.name
  "public " ++ method.returnType.javaType ++ " " ++ method.name ++ "(" ++
    ", ".intercalate parameters ++ ")"

/-- A step in the layout of source text. -/
inductive Step
  | line (text : String)
  | blank
  | statement (text : String)
  | javadoc (text : String)
  | openBlock (header : String)
  | closeBlock
  | method (accessor : Method)
  deriving DecidableEq, Repr

/-- The line of a statement. -/
def statementLine (depth : Nat) (text : String) : Line := ⟨depth, text ++ ";"⟩

/-- The line that opens a block. -/
def openingLine (depth : Nat) (header : String) : Line := ⟨depth, header ++ " \x7b"⟩

/-- The line that closes a block. -/
def closingLine (depth : Nat) : Line := ⟨depth, "\x7d"⟩

/-- The lines of a documentation comment at a depth. -/
def javadocLines (depth : Nat) (text : String) : List Line := (docComment text).map (Line.mk depth)

/-- The lines of a method with its documentation. -/
def Method.lines (depth : Nat) (method : Method) : List Line :=
  (method.doc?.map (javadocLines depth)).getD [] ++
    openingLine depth method.signature ::
      method.body.map (statementLine (depth + 1)) ++ [closingLine depth]

/-- The lines that a step adds at a depth. -/
def Step.lines (depth : Nat) : Step → List Line
  | line text => [⟨depth, text⟩]
  | blank => [⟨depth, ""⟩]
  | statement text => [statementLine depth text]
  | javadoc text => javadocLines depth text
  | openBlock header => [openingLine depth header]
  | closeBlock => [closingLine (depth - 1)]
  | method accessor => accessor.lines depth

/-- The depth after a step. Closing a block that was never opened leaves it at zero. -/
def Step.depthAfter (depth : Nat) : Step → Nat
  | openBlock _ => depth + 1
  | closeBlock => depth - 1
  | _ => depth

/-- The text that a step adds at a depth. -/
def Step.render (indent depth : Nat) (step : Step) : String :=
  renderLines indent (step.lines depth)

/-- The texts that steps add one after the other, from a depth on. -/
def stepTexts (indent depth : Nat) : List Step → List String
  | [] => []
  | step :: rest => step.render indent depth :: stepTexts indent (step.depthAfter depth) rest

/-- The text of steps from depth zero on. -/
def renderSteps (indent : Nat) (steps : List Step) : String :=
  String.join (stepTexts indent 0 steps)

end PrefAccessors.Wrapper
