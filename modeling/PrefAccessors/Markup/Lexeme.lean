import PrefAccessors.Markup.Fault

/-! # Lexemes of marked-up text

A text is cut into lexemes: runs of plain text, references, and the constructs
that begin with `<`. What follows the `<` decides which construct it is. The
lexemes before the first faulty construct are kept together with that fault.
-/

namespace PrefAccessors.Markup

/-- A piece of marked-up text. A tag holds everything between its angle brackets except the
slash that marks an empty or a closing tag. -/
inductive Lexeme
  | text (content : List Char)
  | reference (name : List Char)
  | comment
  | characterData (content : List Char)
  | instruction
  | doctype
  | startTag (content : List Char)
  | emptyTag (content : List Char)
  | endTag (content : List Char)
  deriving DecidableEq, Repr

/-- Cuts a tag at the first `>` outside quotation marks, given the mark that is open. -/
def cutTag (quote? : Option Quote) : List Char → Except Fault (List Char × List Char)
  | [] =>
    match quote? with
    | none => .error .unclosedTag
    | some quote => .error (.unclosedValue quote)
  | char :: rest =>
    match quote? with
    | none =>
      if char = '>' then .ok ([], rest)
      else (cutTag (Quote.ofChar? char) rest).map (prependToCut char)
    | some quote =>
      (cutTag (if char = quote.char then none else some quote) rest).map (prependToCut char)

def beginsWith (mark : String) (text : List Char) : Bool := mark.toList.isPrefixOf text

/-- Whether a declaration may hold `>` in quoted values. -/
def holdsQuotedValues (text : List Char) : Bool :=
  beginsWith "!ENTITY" text || beginsWith "!ATTLIST" text || beginsWith "!NOTATION" text

/-- What follows a declaration of a document type's internal subset, given the text after
its `<`. -/
def afterSubsetMarkup? (text : List Char) : Option (List Char) :=
  if beginsWith "?" text then (cutAt? ['?', '>'] (text.drop 1)).map Prod.snd
  else if beginsWith "!--" text then (cutAt? ['-', '-', '>'] (text.drop 3)).map Prod.snd
  else if holdsQuotedValues text then
    match cutTag none text with
    | .ok (_, after) => some after
    | .error _ => none
  else (cutAt? ['>'] text).map Prod.snd

/-- What follows a document type, given the text after the `[` of its internal subset. Each
of at most `budget` steps passes over a declaration or another character. -/
def afterSubset? : Nat → List Char → Option (List Char)
  | 0, _ => none
  | _, [] => none
  | budget + 1, char :: rest =>
    if char = ']' then (cutAt? ['>'] rest).map Prod.snd
    else if char = '<' then (afterSubsetMarkup? rest).bind (afterSubset? budget)
    else afterSubset? budget rest

/-- What follows a document type, given the text after its keyword and the quotation mark
that is open. -/
def afterDoctype? (quote? : Option Quote) : List Char → Option (List Char)
  | [] => none
  | char :: rest =>
    match quote? with
    | none =>
      if char = '>' then some rest
      else if char = '[' then afterSubset? rest.length rest
      else afterDoctype? (Quote.ofChar? char) rest
    | some quote => afterDoctype? (if char = quote.char then none else some quote) rest

/-- Reads a document type from the text after `<!`. -/
def scanDoctype (text : List Char) : Except Fault (Lexeme × List Char) :=
  let body := text.drop 7
  if (text.take 7).map Char.toUpper != "DOCTYPE".toList then .error .unclosedDoctype
  else
    -- The end is looked for first, so a missing end hides a missing name.
    match afterDoctype? none body with
    | none => .error .unclosedDoctype
    | some after =>
      if (body.dropWhile isSpace).head? = some '>' then .error .namelessDoctype
      else .ok (.doctype, after)

/-- Reads what begins with `<!` from the text after these characters. -/
def scanDeclaration (text : List Char) : Except Fault (Lexeme × List Char) :=
  match text with
  | '-' :: rest =>
    if rest.head? != some '-' then .error .unclosedComment
    else
      match cutAt? ['-', '-', '>'] (rest.drop 1) with
      | some (_, after) => .ok (.comment, after)
      | none => .error .unclosedComment
  | '[' :: rest =>
    if !beginsWith "CDATA[" rest then .error .unclosedCharacterData
    else
      match cutAt? [']', ']', '>'] (rest.drop 6) with
      | some (content, after) => .ok (.characterData content, after)
      | none => .error .unclosedCharacterData
  | 'D' :: _ | 'd' :: _ => scanDoctype text
  | _ => .error .unknownMarkup

/-- The fault of an instruction without an end. It is a document declaration if its target
is exactly `xml`. -/
def instructionFault (text : List Char) : Fault :=
  match text with
  | 'x' :: 'm' :: 'l' :: rest =>
    match rest with
    | [] => .unclosedDeclaration
    | char :: _ =>
      if isSpace char || char == '?' then .unclosedDeclaration else .unclosedInstruction
  | _ => .unclosedInstruction

/-- Reads a processing instruction from the text after `<?`. The question mark that opens it
cannot close it as well. -/
def scanInstruction (text : List Char) : Except Fault (Lexeme × List Char) :=
  if text.head? = some '>' then .error (instructionFault text)
  else
    match cutAt? ['?', '>'] text with
    | some (_, after) => .ok (.instruction, after)
    | none => .error (instructionFault text)

/-- The tag with the given content, which ends in a slash if the tag is empty. -/
def tagLexeme (content : List Char) : Lexeme :=
  if content.getLast? = some '/' then .emptyTag content.dropLast else .startTag content

/-- Reads the construct that begins with `<` from the text after it. -/
def scanMarkup (text : List Char) : Except Fault (Lexeme × List Char) :=
  match text with
  | '!' :: rest => scanDeclaration rest
  | '?' :: rest => scanInstruction rest
  | '/' :: rest => (cutTag none rest).map fun cut => (.endTag cut.1, cut.2)
  | _ => (cutTag none text).map fun cut => (tagLexeme cut.1, cut.2)

/-- Reads a reference from the text after `&`. Its `;` must come before any other markup. -/
def scanReference (text : List Char) : Except Fault (Lexeme × List Char) :=
  let inside (char : Char) : Bool := char != ';' && char != '&' && char != '<'
  match text.dropWhile inside with
  | ';' :: after => .ok (.reference (text.takeWhile inside), after)
  | _ => .error .unclosedReference

def isPlain (char : Char) : Bool := char != '<' && char != '&'

/-- Reads the lexeme that begins with a character, given the text after it. -/
def scanLexeme (char : Char) (rest : List Char) : Except Fault (Lexeme × List Char) :=
  if char = '<' then scanMarkup rest
  else if char = '&' then scanReference rest
  else .ok (.text (char :: rest.takeWhile isPlain), rest.dropWhile isPlain)

/-- What has been read of a text: the lexemes, and the fault that ended them, if any. -/
structure Lexing where
  lexemes : List Lexeme
  fault? : Option Fault
  deriving DecidableEq, Repr

/-- Reads at most `budget` lexemes. -/
def lexWithin : Nat → List Char → Lexing
  | _, [] => ⟨[], none⟩
  | 0, _ => ⟨[], none⟩
  | budget + 1, char :: rest =>
    match scanLexeme char rest with
    | .error fault => ⟨[], some fault⟩
    | .ok (lexeme, after) =>
      let lexing := lexWithin budget after
      ⟨lexeme :: lexing.lexemes, lexing.fault?⟩

/-- The lexemes of a text. Every lexeme has a character, so the length of the text bounds
their number. -/
def lex (text : List Char) : Lexing := lexWithin text.length text

end PrefAccessors.Markup
