import Mathlib.Data.List.Basic
import Mathlib.Data.List.TakeWhile
import PrefAccessors.Markup.Event
import PrefAccessors.Markup.Lexing

/-! # Tags as text

A tag is written as its name and its attributes, each with a blank before it and
its value in double quotes. The values may hold every character but that mark:
closing brackets, slashes, line breaks and what looks like markup do not end a
tag. Reading the text of a tag gives the tag back, and reading goes on behind it.
-/

namespace PrefAccessors.Markup

/-- The text of an attribute with the blank before it. -/
def Attribute.chars (pair : Attribute) : List Char :=
  ' ' :: pair.key.toList ++ '=' :: '"' :: pair.rawValue.toList ++ ['"']

/-- The text of an attribute in the given quotation marks. -/
def Attribute.quotedChars (quote : Quote) (pair : Attribute) : List Char :=
  ' ' :: pair.key.toList ++ '=' :: quote.char :: pair.rawValue.toList ++ [quote.char]

/-- The text of a tag between its brackets, without the slash of an empty tag. -/
def Tag.chars (tag : Tag) : List Char :=
  tag.name.toList ++ tag.attributes.flatMap Attribute.chars

/-- The text of a tag whose attributes are put in quotation marks of one kind or the other. -/
def Tag.quotedChars (mark : Attribute → Quote) (tag : Tag) : List Char :=
  tag.name.toList ++ tag.attributes.flatMap fun pair => pair.quotedChars (mark pair)

/-- Whether the character has no meaning to the end of a tag. -/
def isNeutral (char : Char) : Bool := char != '>' && char != '\'' && char != '"'

/-- A word between blanks in a tag, or before the `=` of an attribute. -/
structure IsWord (word : String) : Prop where
  ne_nil : word.toList ≠ []
  neutral : ∀ char ∈ word.toList, isNeutral char
  continues : ∀ char ∈ word.toList, continuesKey char

instance (word : String) : Decidable (IsWord word) :=
  decidable_of_iff (word.toList ≠ [] ∧ word.toList.all isNeutral ∧ word.toList.all continuesKey)
    ⟨fun ⟨hne, hneutral, hcontinues⟩ =>
        ⟨hne, List.all_eq_true.mp hneutral, List.all_eq_true.mp hcontinues⟩,
      fun ⟨hne, hneutral, hcontinues⟩ =>
        ⟨hne, List.all_eq_true.mpr hneutral, List.all_eq_true.mpr hcontinues⟩⟩

/-- Whether what begins with these characters is a start tag, and nothing else that `<` opens. -/
def beginsTag (content : List Char) : Bool :=
  content.head?.all fun mark => mark ∉ ['!', '?', '/']

/-- What is taken for the key of an attribute. Its first character is taken whatever it is besides
a blank. -/
def IsKey (key : List Char) : Prop :=
  ∃ first tail, key = first :: tail ∧ isSpace first = false ∧ ∀ char ∈ tail, continuesKey char

/-- What a tag must satisfy for its name and its attributes to be found in its text. -/
structure Tag.IsQuotable (mark : Attribute → Quote) (tag : Tag) : Prop where
  name : ∀ char ∈ tag.name.toList, isSpace char = false
  keys : ∀ pair ∈ tag.attributes, IsKey pair.key.toList
  distinct : (tag.attributes.map Attribute.key).Nodup
  values : ∀ pair ∈ tag.attributes, (mark pair).char ∉ pair.rawValue.toList

/-- What a tag must satisfy to be read back from its text. -/
structure Tag.IsWritable (tag : Tag) : Prop where
  name : IsWord tag.name
  markup : beginsTag tag.name.toList
  plain : '/' ∉ tag.name.toList
  keys : ∀ pair ∈ tag.attributes, IsWord pair.key
  distinct : (tag.attributes.map Attribute.key).Nodup
  values : ∀ pair ∈ tag.attributes, '"' ∉ pair.rawValue.toList

/-! ## The end of a tag -/

/-- A piece of a tag after which the search for the end goes on as before it. -/
def Passes (piece : List Char) : Prop :=
  ∀ rest, cutTag none (piece ++ rest) =
    (cutTag none rest).map fun cut => (piece ++ cut.1, cut.2)

theorem Passes.nil : Passes [] := by
  intro rest
  cases hcut : cutTag none rest <;> simp [hcut, Except.map]

theorem Passes.append {first second : List Char} (hfirst : Passes first)
    (hsecond : Passes second) : Passes (first ++ second) := by
  intro rest
  rw [List.append_assoc, hfirst, hsecond]
  cases hcut : cutTag none rest <;> simp [Except.map]

theorem Passes.flatMap {α : Type} {pieces : List α} {chars : α → List Char}
    (hpieces : ∀ piece ∈ pieces, Passes (chars piece)) : Passes (pieces.flatMap chars) := by
  induction pieces with
  | nil => exact Passes.nil
  | cons piece rest ih =>
    rw [List.flatMap_cons]
    exact (hpieces piece List.mem_cons_self).append
      (ih fun other hother => hpieces other (List.mem_cons_of_mem _ hother))

theorem Passes.of_neutral {piece : List Char} (hneutral : ∀ char ∈ piece, isNeutral char) :
    Passes piece := by
  induction piece with
  | nil => exact Passes.nil
  | cons char piece ih =>
    intro rest
    have hchar := hneutral char List.mem_cons_self
    have hrest := ih (fun other hother => hneutral other (List.mem_cons_of_mem _ hother)) rest
    simp only [isNeutral, Bool.and_eq_true, bne_iff_ne] at hchar
    obtain ⟨⟨hclose, hsingle⟩, hdouble⟩ := hchar
    simp only [List.cons_append, cutTag, if_neg hclose, Quote.ofChar?, if_neg hsingle,
      if_neg hdouble, hrest]
    cases cutTag none rest <;> simp [Except.map, prependToCut]

/-- A quoted value passes whatever it holds besides its own mark. -/
theorem cutTag_quoted {quote : Quote} {value : List Char} (hvalue : quote.char ∉ value)
    (rest : List Char) :
    cutTag (some quote) (value ++ quote.char :: rest) =
      (cutTag none rest).map fun cut => (value ++ quote.char :: cut.1, cut.2) := by
  induction value with
  | nil =>
    simp only [List.nil_append, cutTag, if_pos]
    rfl
  | cons char value ih =>
    rw [List.mem_cons, not_or] at hvalue
    simp only [List.cons_append, cutTag, if_neg (Ne.symm hvalue.1), ih hvalue.2]
    cases cutTag none rest <;> simp [Except.map, prependToCut]

theorem Passes.quoted {quote : Quote} {value : List Char} (hvalue : quote.char ∉ value) :
    Passes (quote.char :: value ++ [quote.char]) := by
  have hopen : quote.char ≠ '>' ∧ Quote.ofChar? quote.char = some quote := by
    cases quote <;> decide
  intro rest
  simp only [List.cons_append, List.append_assoc, List.nil_append, cutTag, if_neg hopen.1, hopen.2,
    cutTag_quoted hvalue rest]
  cases cutTag none rest <;> simp [Except.map, prependToCut]

theorem Attribute.passes {pair : Attribute} (hkey : ∀ char ∈ pair.key.toList, isNeutral char)
    {quote : Quote} (hvalue : quote.char ∉ pair.rawValue.toList) :
    Passes (pair.quotedChars quote) := by
  have hhead : Passes (' ' :: pair.key.toList ++ ['=']) := by
    apply Passes.of_neutral
    intro char hchar
    simp only [List.cons_append, List.mem_cons, List.mem_append, List.not_mem_nil, or_false]
      at hchar
    rcases hchar with rfl | hchar | rfl
    · rfl
    · exact hkey char hchar
    · rfl
  simpa [Attribute.quotedChars] using hhead.append (Passes.quoted hvalue)

theorem Tag.passes_quotedChars {mark : Attribute → Quote} {tag : Tag}
    (hname : ∀ char ∈ tag.name.toList, isNeutral char)
    (hkeys : ∀ pair ∈ tag.attributes, ∀ char ∈ pair.key.toList, isNeutral char)
    (hvalues : ∀ pair ∈ tag.attributes, (mark pair).char ∉ pair.rawValue.toList) :
    Passes (tag.quotedChars mark) :=
  (Passes.of_neutral hname).append <|
    Passes.flatMap fun pair hpair => Attribute.passes (hkeys pair hpair) (hvalues pair hpair)

theorem Tag.IsWritable.passes {tag : Tag} (htag : tag.IsWritable) : Passes tag.chars :=
  @Tag.passes_quotedChars (fun _ => .double) tag htag.name.neutral
    (fun pair hpair => (htag.keys pair hpair).neutral) htag.values

theorem Passes.cutTag_eq {content : List Char} (hcontent : Passes content) (rest : List Char) :
    cutTag none (content ++ '>' :: rest) = .ok (content, rest) := by
  rw [hcontent]
  simp [cutTag, Except.map]

/-! ## The parts of a tag -/

theorem not_isSpace_of_continuesKey {char : Char} (hchar : continuesKey char) :
    isSpace char = false := by
  simp only [continuesKey, Bool.and_eq_true, Bool.not_eq_true'] at hchar
  exact hchar.1

theorem IsWord.isKey {word : String} (hword : IsWord word) : IsKey word.toList := by
  obtain ⟨first, tail, hchars⟩ := List.exists_cons_of_ne_nil hword.ne_nil
  refine ⟨first, tail, hchars, not_isSpace_of_continuesKey (hword.continues first ?_), ?_⟩
  · simp [hchars]
  · intro char hchar
    exact hword.continues char (by simp [hchars, hchar])

theorem readPieces_quotedChars {pair : Attribute} (hkey : IsKey pair.key.toList) {quote : Quote}
    (hvalue : quote.char ∉ pair.rawValue.toList) {seen : List (List Char)}
    (hseen : pair.key.toList ∉ seen) (budget : Nat) (rest : List Char) :
    readPieces (budget + 1) seen (pair.quotedChars quote ++ rest) =
      .ok pair :: readPieces budget (pair.key.toList :: seen) rest := by
  obtain ⟨key, rawValue⟩ := pair
  obtain ⟨first, tail, hchars, hfirst, htail⟩ := hkey
  simp only at hchars hvalue hseen
  have hkeyName : String.ofList (first :: tail) = key := by rw [← hchars, String.ofList_toList]
  have htext : (Attribute.quotedChars quote ⟨key, rawValue⟩ ++ rest).dropWhile isSpace =
      first :: (tail ++ '=' :: quote.char :: (rawValue.toList ++ quote.char :: rest)) := by
    simp [Attribute.quotedChars, hchars, hfirst, show isSpace ' ' = true from rfl]
  have htake : (tail ++ '=' :: quote.char :: (rawValue.toList ++ quote.char :: rest)).takeWhile
      continuesKey = tail := by
    rw [List.takeWhile_append_of_pos htail]
    simp [continuesKey]
  have hdrop : (tail ++ '=' :: quote.char :: (rawValue.toList ++ quote.char :: rest)).dropWhile
      continuesKey = '=' :: quote.char :: (rawValue.toList ++ quote.char :: rest) := by
    rw [List.dropWhile_append_of_pos htail]
    simp [continuesKey]
  have hquote : isSpace quote.char = false ∧ Quote.ofChar? quote.char = some quote := by
    cases quote <;> decide
  rw [hchars] at hseen ⊢
  simp [readPieces, htext, htake, hdrop, hkeyName, hseen, hquote, cutAt?_singleton hvalue,
    show isSpace '=' = false from rfl]

theorem readPieces_flatMap {mark : Attribute → Quote} {attributes : List Attribute}
    (hkeys : ∀ pair ∈ attributes, IsKey pair.key.toList)
    (hvalues : ∀ pair ∈ attributes, (mark pair).char ∉ pair.rawValue.toList)
    (hdistinct : (attributes.map Attribute.key).Nodup) {seen : List (List Char)}
    (hseen : ∀ pair ∈ attributes, pair.key.toList ∉ seen) {budget : Nat}
    (hbudget : attributes.length ≤ budget) :
    readPieces budget seen (attributes.flatMap fun pair => pair.quotedChars (mark pair)) =
      attributes.map .ok := by
  induction attributes generalizing seen budget with
  | nil => cases budget <;> simp [readPieces]
  | cons pair rest ih =>
    obtain ⟨budget, rfl⟩ := Nat.exists_eq_add_one_of_ne_zero
      (Nat.ne_of_gt (Nat.lt_of_lt_of_le (Nat.zero_lt_succ _) hbudget))
    rw [List.map_cons, List.nodup_cons] at hdistinct
    simp only [List.forall_mem_cons] at hkeys hvalues hseen
    -- The key of this attribute is seen from now on; distinctness keeps the others from it.
    have hrest : ∀ other ∈ rest, other.key.toList ∉ pair.key.toList :: seen := by
      intro other hother hmem
      rcases List.mem_cons.mp hmem with heq | hmem
      · apply hdistinct.1
        rw [← String.toList_inj.mp heq]
        exact List.mem_map_of_mem hother
      · exact hseen.2 other hother hmem
    rw [List.flatMap_cons, readPieces_quotedChars hkeys.1 hvalues.1 hseen.1,
      ih hkeys.2 hvalues.2 hdistinct.2 hrest (Nat.le_of_succ_le_succ hbudget), List.map_cons]

theorem goodAttributes_map_ok (attributes : List Attribute) :
    goodAttributes (attributes.map .ok) = attributes := by
  induction attributes with
  | nil => rfl
  | cons pair rest ih => simpa [goodAttributes, Except.toOption] using ih

theorem length_le_length_flatMap (mark : Attribute → Quote) (attributes : List Attribute) :
    attributes.length ≤
      (attributes.flatMap fun pair => pair.quotedChars (mark pair)).length := by
  induction attributes with
  | nil => simp
  | cons pair rest ih =>
    have hpair : 0 < (pair.quotedChars (mark pair)).length := by simp [Attribute.quotedChars]
    rw [List.length_cons, List.flatMap_cons, List.length_append]
    omega

section

variable {mark : Attribute → Quote} {tag : Tag}

/-- The name of a tag ends where its attributes begin. -/
theorem Tag.IsQuotable.span_name (htag : tag.IsQuotable mark) :
    (tag.quotedChars mark).takeWhile (fun char => !isSpace char) = tag.name.toList ∧
      (tag.quotedChars mark).dropWhile (fun char => !isSpace char) =
        tag.attributes.flatMap fun pair => pair.quotedChars (mark pair) := by
  have hname : ∀ char ∈ tag.name.toList, (!isSpace char) = true := by
    intro char hchar
    rw [htag.name char hchar, Bool.not_false]
  rw [Tag.quotedChars, List.takeWhile_append_of_pos hname, List.dropWhile_append_of_pos hname]
  cases tag.attributes with
  | nil => simp
  | cons pair rest => simp [Attribute.quotedChars, show isSpace ' ' = true from rfl]

theorem Tag.IsQuotable.nameOf_quotedChars (htag : tag.IsQuotable mark) :
    Tag.nameOf (tag.quotedChars mark) = tag.name := by
  rw [Tag.nameOf, htag.span_name.1, String.ofList_toList]

/-- No piece of the text is faulty. -/
theorem Tag.IsQuotable.attributePieces_quotedChars (htag : tag.IsQuotable mark) :
    attributePieces (Tag.attributeText (tag.quotedChars mark)) = tag.attributes.map .ok := by
  rw [Tag.attributeText, fromNextSpace, htag.span_name.2, attributePieces]
  exact readPieces_flatMap htag.keys htag.values htag.distinct (by simp)
    (length_le_length_flatMap mark _)

end

theorem Tag.IsWritable.isQuotable {tag : Tag} (htag : tag.IsWritable) :
    tag.IsQuotable fun _ => .double where
  name char hchar := not_isSpace_of_continuesKey (htag.name.continues char hchar)
  keys pair hpair := (htag.keys pair hpair).isKey
  distinct := htag.distinct
  values := htag.values

/-- The text of a tag has the name and the attributes of the tag. -/
theorem Tag.IsWritable.ofContent_chars {tag : Tag} (htag : tag.IsWritable) :
    Tag.ofContent tag.chars = tag := by
  have hname : Tag.nameOf tag.chars = tag.name := htag.isQuotable.nameOf_quotedChars
  have hpieces : attributePieces (Tag.attributeText tag.chars) = tag.attributes.map .ok :=
    htag.isQuotable.attributePieces_quotedChars
  rw [Tag.ofContent, hname, hpieces, goodAttributes_map_ok]

/-! ## Tags in a document -/

/-- The events of a text that stands within open elements, innermost first. -/
def eventsOfText (openNames : List String) (text : List Char) : EventStream :=
  eventsWithin openNames (lex text).fault? (lex text).lexemes

@[simp]
theorem eventsOfText_nil (openNames : List String) : eventsOfText openNames [] = ⟨[], none⟩ := rfl

theorem scanMarkup_of_passes {content : List Char} (hcontent : Passes content)
    (hmarkup : beginsTag content) (hne : content ≠ []) (rest : List Char) :
    scanMarkup (content ++ '>' :: rest) = .ok (tagLexeme content, rest) := by
  have hcut := hcontent.cutTag_eq rest
  obtain ⟨first, tail, rfl⟩ := List.exists_cons_of_ne_nil hne
  have hfirst : first ∉ ['!', '?', '/'] := of_decide_eq_true hmarkup
  simp only [List.mem_cons, List.not_mem_nil, or_false, not_or] at hfirst
  obtain ⟨hdeclaration, hinstruction, hend⟩ := hfirst
  simp only [List.cons_append] at hcut ⊢
  unfold scanMarkup
  split
  next heq => exact absurd (List.cons.inj heq).1 hdeclaration
  next heq => exact absurd (List.cons.inj heq).1 hinstruction
  next heq => exact absurd (List.cons.inj heq).1 hend
  next => rw [hcut]; rfl

theorem Tag.IsWritable.chars_ne_nil {tag : Tag} (htag : tag.IsWritable) : tag.chars ≠ [] := by
  simp [Tag.chars, htag.name.ne_nil]

theorem beginsTag_append {content : List Char} (hne : content ≠ []) (rest : List Char) :
    beginsTag (content ++ rest) = beginsTag content := by
  rw [beginsTag, List.head?_append_of_ne_nil _ hne, beginsTag]

theorem Tag.IsWritable.beginsTag_chars {tag : Tag} (htag : tag.IsWritable) :
    beginsTag tag.chars := by
  rw [Tag.chars, beginsTag_append htag.name.ne_nil]
  exact htag.markup

/-- The text of a tag does not end in a slash, which would make the tag an empty one. -/
theorem Tag.getLast?_quotedChars {mark : Attribute → Quote} {tag : Tag}
    (hplain : '/' ∉ tag.name.toList) : (tag.quotedChars mark).getLast? ≠ some '/' := by
  -- The last character is that of the name, or the mark behind the last value.
  rcases List.eq_nil_or_concat tag.attributes with hnil | ⟨initial, last, hlast⟩
  · intro heq
    rw [Tag.quotedChars, hnil, List.flatMap_nil, List.append_nil] at heq
    exact hplain (List.mem_of_getLast? heq)
  · have hmark : (last.quotedChars (mark last)).getLast? = some (mark last).char := by
      rw [Attribute.quotedChars, List.getLast?_append]
      rfl
    have hslash : (mark last).char ≠ '/' := by cases mark last <;> decide
    simp [Tag.quotedChars, hlast, List.getLast?_append, hmark, hslash]

theorem Tag.IsWritable.getLast?_chars {tag : Tag} (htag : tag.IsWritable) :
    tag.chars.getLast? ≠ some '/' :=
  @Tag.getLast?_quotedChars (fun _ => .double) tag htag.plain

theorem eventsOfText_start_of_passes {content : List Char} (hcontent : Passes content)
    (hmarkup : beginsTag content) (hne : content ≠ []) (hslash : content.getLast? ≠ some '/')
    (openNames : List String) (rest : List Char) :
    eventsOfText openNames ('<' :: (content ++ '>' :: rest)) =
      (eventsOfText (Tag.nameOf content :: openNames) rest).cons
        (.startTag (Tag.ofContent content)) := by
  have hscan : scanLexeme '<' (content ++ '>' :: rest) = .ok (.startTag content, rest) := by
    rw [scanLexeme, if_pos rfl, scanMarkup_of_passes hcontent hmarkup hne, tagLexeme,
      if_neg hslash]
  rw [eventsOfText, lex_of_scan_ok hscan]
  rfl

theorem eventsOfText_empty_of_passes {content : List Char} (hcontent : Passes content)
    (hmarkup : beginsTag content) (hne : content ≠ []) (openNames : List String)
    (rest : List Char) :
    eventsOfText openNames ('<' :: (content ++ '/' :: '>' :: rest)) =
      (eventsOfText openNames rest).cons (.emptyTag (Tag.ofContent content)) := by
  have hslash : Passes (content ++ ['/']) :=
    hcontent.append (Passes.of_neutral (by simp [isNeutral]))
  have hhead : beginsTag (content ++ ['/']) := by
    rw [beginsTag_append hne]
    exact hmarkup
  have hscan : scanLexeme '<' (content ++ '/' :: '>' :: rest) = .ok (.emptyTag content, rest) := by
    have hmarkup := scanMarkup_of_passes hslash hhead (by simp) rest
    rw [List.append_assoc] at hmarkup
    rw [scanLexeme, if_pos rfl]
    simpa [tagLexeme] using hmarkup
  rw [eventsOfText, lex_of_scan_ok hscan]
  rfl

theorem eventsOfText_startTag {tag : Tag} (htag : tag.IsWritable) (openNames : List String)
    (rest : List Char) :
    eventsOfText openNames ('<' :: (tag.chars ++ '>' :: rest)) =
      (eventsOfText (tag.name :: openNames) rest).cons (.startTag tag) := by
  have hname : Tag.nameOf tag.chars = tag.name := congrArg Tag.name htag.ofContent_chars
  rw [eventsOfText_start_of_passes htag.passes htag.beginsTag_chars htag.chars_ne_nil
    htag.getLast?_chars, hname, htag.ofContent_chars]

theorem eventsOfText_emptyTag {tag : Tag} (htag : tag.IsWritable) (openNames : List String)
    (rest : List Char) :
    eventsOfText openNames ('<' :: (tag.chars ++ '/' :: '>' :: rest)) =
      (eventsOfText openNames rest).cons (.emptyTag tag) := by
  rw [eventsOfText_empty_of_passes htag.passes htag.beginsTag_chars htag.chars_ne_nil,
    htag.ofContent_chars]

theorem endTagName_of_isWord {name : String} (hname : IsWord name) :
    endTagName name.toList = name := by
  have hkeep : (name.toList.reverse.dropWhile isSpace).reverse = name.toList := by
    rw [List.dropWhile_eq_self_iff.mpr, List.reverse_reverse]
    intro hpos
    have hmem := List.mem_reverse.mp (List.getElem_mem hpos)
    rw [not_isSpace_of_continuesKey (hname.continues _ hmem)]
    exact Bool.false_ne_true
  simp only [endTagName, hkeep, ite_self, String.ofList_toList]

theorem eventsOfText_endTag {name : String} (hname : IsWord name) (openNames : List String)
    (rest : List Char) :
    eventsOfText (name :: openNames) ('<' :: '/' :: (name.toList ++ '>' :: rest)) =
      (eventsOfText openNames rest).cons .endTag := by
  have hscan : scanLexeme '<' ('/' :: (name.toList ++ '>' :: rest)) =
      .ok (.endTag name.toList, rest) := by
    rw [scanLexeme, if_pos rfl, scanMarkup, (Passes.of_neutral hname.neutral).cutTag_eq rest]
    rfl
  rw [eventsOfText, lex_of_scan_ok hscan]
  simp only [eventsWithin, endTagName_of_isWord hname, if_pos]
  rfl

end PrefAccessors.Markup
