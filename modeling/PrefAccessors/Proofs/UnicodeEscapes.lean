import PrefAccessors.Proofs.DocComments
import PrefAccessors.Proofs.JoinedNames
import PrefAccessors.Proofs.StatementReading

/-! # Unicode escapes in accessors

Java replaces Unicode escapes before it looks for comments and literals, so a key that
holds one changes the source wherever it stands. In the statements of an accessor the
key is a literal, where every backslash is doubled and begins no escape. In the
documentation the key stands as it is. The text of an accessor therefore holds a
Unicode escape exactly if the key does, apart from the names that a declaration puts
into the signature.
-/

namespace PrefAccessors.Wrapper

/-! ## Where an escape begins -/

/-- The number of backslashes at the end of the text. -/
def closingBackslashes (text : List Char) : Nat := (text.reverse.takeWhile (· == '\\')).length

/-- Whether a Unicode escape begins in the text: at a backslash with an even number of
backslashes before it and a `u` behind it. -/
def HoldsUnicodeEscape (text : List Char) : Prop :=
  ∃ before after, text = before ++ '\\' :: 'u' :: after ∧ closingBackslashes before % 2 = 0

/-- Looks for a Unicode escape, where `odd` says whether an odd number of backslashes stands right
before the text. -/
def findsEscape (odd : Bool) : List Char → Bool
  | [] => false
  | char :: rest =>
    if char = '\\' then findsEscape (!odd) rest
    else odd && char == 'u' || findsEscape false rest

theorem closingBackslashes_append_singleton (text : List Char) (char : Char) :
    closingBackslashes (text ++ [char]) =
      if char = '\\' then closingBackslashes text + 1 else 0 := by
  unfold closingBackslashes
  by_cases hchar : char = '\\' <;> simp [hchar]

/-- An escape begins at the first character or behind it. -/
theorem exists_escape_cons_iff {property : List Char → Prop} {char : Char} {rest : List Char} :
    (∃ before after, char :: rest = before ++ '\\' :: 'u' :: after ∧ property before) ↔
      char = '\\' ∧ rest.head? = some 'u' ∧ property [] ∨
        ∃ before after, rest = before ++ '\\' :: 'u' :: after ∧ property (char :: before) := by
  constructor
  · rintro ⟨before, after, heq, hproperty⟩
    cases before with
    | nil =>
      obtain ⟨rfl, rfl⟩ := List.cons.inj heq
      exact Or.inl ⟨rfl, rfl, hproperty⟩
    | cons head before =>
      obtain ⟨rfl, rfl⟩ := List.cons.inj heq
      exact Or.inr ⟨before, after, rfl, hproperty⟩
  · rintro (⟨rfl, hhead, hproperty⟩ | ⟨before, after, rfl, hproperty⟩)
    · obtain ⟨after, rfl⟩ := List.head?_eq_some_iff.mp hhead
      exact ⟨[], after, rfl, hproperty⟩
    · exact ⟨char :: before, after, rfl, hproperty⟩

/-- Behind a text whose closing backslashes are told by `odd`, the search finds the escapes of the
whole that begin later, and the one that the last of these backslashes begins. -/
theorem findsEscape_iff {seen : List Char} {odd : Bool}
    (hodd : odd = decide (closingBackslashes seen % 2 = 1)) {text : List Char} :
    findsEscape odd text ↔
      odd ∧ text.head? = some 'u' ∨
        ∃ before after, text = before ++ '\\' :: 'u' :: after ∧
          closingBackslashes (seen ++ before) % 2 = 0 := by
  induction text generalizing seen odd with
  | nil => simp [findsEscape]
  | cons char rest ih =>
    rw [exists_escape_cons_iff, findsEscape, List.head?_cons, Option.some_inj]
    by_cases hchar : char = '\\'
    · -- The backslash is counted now, and its escape is found when the `u` is read.
      subst hchar
      have hnext : (!odd) = decide (closingBackslashes (seen ++ ['\\']) % 2 = 1) := by
        rw [closingBackslashes_append_singleton, if_pos rfl, hodd, ← decide_not, decide_eq_decide]
        omega
      have heven : (!odd) = true ↔ closingBackslashes (seen ++ []) % 2 = 0 := by
        rw [hodd, List.append_nil]
        simp
      have hother : '\\' ≠ 'u' := by decide
      rw [if_pos rfl, ih hnext, heven]
      simp only [List.append_assoc, List.singleton_append, hother, and_false, false_or, true_and]
      rw [and_comm]
    · have hnext : false = decide (closingBackslashes (seen ++ [char]) % 2 = 1) := by
        rw [closingBackslashes_append_singleton, if_neg hchar]
        rfl
      rw [if_neg hchar, Bool.or_eq_true, ih hnext, Bool.and_eq_true, beq_iff_eq]
      simp only [List.append_assoc, List.singleton_append, hchar, Bool.false_eq_true, false_and,
        false_or]

theorem holdsUnicodeEscape_iff {text : List Char} :
    HoldsUnicodeEscape text ↔ findsEscape false text := by
  have hstart : false = decide (closingBackslashes [] % 2 = 1) := rfl
  rw [findsEscape_iff hstart]
  simp [HoldsUnicodeEscape]

instance (text : List Char) : Decidable (HoldsUnicodeEscape text) :=
  decidable_of_iff _ holdsUnicodeEscape_iff.symm

/-! ## Parts of a text -/

/-- What stands before a character that is neither a backslash nor a `u` begins no escape that ends
behind it. -/
theorem findsEscape_append_cons {char : Char} (hbackslash : char ≠ '\\') (hletter : char ≠ 'u')
    (odd : Bool) (first second : List Char) :
    findsEscape odd (first ++ char :: second) =
      (findsEscape odd first || findsEscape false second) := by
  induction first generalizing odd with
  | nil => simp [findsEscape, hbackslash, hletter]
  | cons head first ih =>
    rw [List.cons_append, findsEscape, findsEscape, ih, ih]
    split
    next => rfl
    next => rw [Bool.or_assoc]

theorem findsEscape_append_of_plain {plain : List Char} (hplain : '\\' ∉ plain)
    (text : List Char) : findsEscape false (plain ++ text) = findsEscape false text := by
  induction plain with
  | nil => rfl
  | cons char plain ih =>
    rw [List.mem_cons, not_or] at hplain
    rw [List.cons_append, findsEscape, if_neg (Ne.symm hplain.1), ih hplain.2]
    rfl

theorem findsEscape_of_plain {plain : List Char} (hplain : '\\' ∉ plain) :
    findsEscape false plain = false := by
  rw [← List.append_nil plain, findsEscape_append_of_plain hplain]
  rfl

theorem findsEscape_append_end {char : Char} (hbackslash : char ≠ '\\') (hletter : char ≠ 'u')
    {plain : List Char} (hplain : '\\' ∉ plain) (odd : Bool) (text : List Char) :
    findsEscape odd (text ++ char :: plain) = findsEscape odd text := by
  rw [findsEscape_append_cons hbackslash hletter, findsEscape_of_plain hplain, Bool.or_false]

/-- The literal of a text has no escape of its own: a backslash is doubled, and no `u` follows those
of the other escaped characters. -/
theorem findsEscape_flatMap_escapeChar (text rest : List Char) :
    findsEscape false (text.flatMap escapeChar ++ rest) = findsEscape false rest := by
  induction text with
  | nil => rfl
  | cons char text ih =>
    rw [List.flatMap_cons, List.append_assoc, ← ih]
    unfold escapeChar
    split
    case h_6 hbackslash _ _ _ =>
      exact findsEscape_append_of_plain (by simpa using Ne.symm hbackslash) _
    all_goals rfl

/-! ## Laid-out text -/

theorem findsEscape_renderLines (indent : Nat) (lines : List Line) :
    findsEscape false (renderLines indent lines).toList =
      lines.any fun line => findsEscape false line.text.toList := by
  have hline (line : Line) :
      findsEscape false (line.chars indent) = findsEscape false line.text.toList := by
    unfold Line.chars
    split
    next hempty => rw [String.isEmpty_iff.mp hempty]; rfl
    next =>
      refine findsEscape_append_of_plain (fun hmem => ?_) _
      exact absurd (List.eq_of_mem_replicate hmem) (by decide)
  rw [toList_renderLines]
  induction lines with
  | nil => rfl
  | cons line lines ih =>
    rw [List.map_cons, List.flatMap_cons, List.append_assoc, List.singleton_append,
      findsEscape_append_cons (by decide) (by decide), ih, hline, List.any_cons]

/-- Looks for an escape inside the lines of a text, where `odd` tells the backslashes before the
first one. -/
def findsEscapeInLines (odd : Bool) : List (List Char) → Bool
  | [] => false
  | line :: rest => findsEscape odd line || rest.any (findsEscape false)

theorem findsEscapeInLines_false (lines : List (List Char)) :
    findsEscapeInLines false lines = lines.any (findsEscape false) := by
  cases lines <;> rfl

theorem findsEscapeInLines_extendFirstLine (odd : Bool) (char : Char)
    (lines : List (List Char)) :
    findsEscapeInLines odd (Text.extendFirstLine char lines) =
      if char = '\\' then findsEscapeInLines (!odd) lines
      else odd && char == 'u' || findsEscapeInLines false lines := by
  cases lines with
  | nil =>
    simp only [Text.extendFirstLine, findsEscapeInLines, findsEscape, List.any_nil, Bool.or_false]
  | cons line rest =>
    simp only [Text.extendFirstLine, findsEscapeInLines, findsEscape]
    split
    next => rfl
    next => rw [Bool.or_assoc]

/-- A line end breaks every run of backslashes, so the escapes of a text are those of its lines. -/
theorem findsEscapeInLines_lines (odd : Bool) (text : List Char) :
    findsEscapeInLines odd (Text.lines text) = findsEscape odd text := by
  fun_induction Text.lines text generalizing odd with
  | case1 => rfl
  | case2 rest ih =>
    rw [findsEscapeInLines, ← findsEscapeInLines_false, ih]
    simp [findsEscape]
  | case3 rest _ ih =>
    rw [findsEscapeInLines, ← findsEscapeInLines_false, ih]
    simp [findsEscape]
  | case4 char rest _ _ ih => rw [findsEscapeInLines_extendFirstLine, ih, ih, findsEscape]

theorem findsEscape_maskCommentEnd (odd : Bool) (text : List Char) :
    findsEscape odd (maskCommentEnd text) = findsEscape odd text := by
  fun_induction maskCommentEnd text generalizing odd with
  | case1 rest ih => simp [findsEscape, ih]
  | case2 char rest _ ih => rw [findsEscape, findsEscape, ih, ih]
  | case3 => rfl

theorem findsEscape_docLine (text : List Char) :
    findsEscape false (docLine text).toList = findsEscape false text := by
  unfold docLine
  split
  next hempty => rw [List.isEmpty_iff.mp hempty]; rfl
  next =>
    rw [String.toList_append, findsEscape_append_of_plain (by decide), String.toList_ofList,
      findsEscape_maskCommentEnd]

/-- A comment has the escapes of its text, since nothing in it hides a backslash. -/
theorem any_findsEscape_javadocLines (depth : Nat) (text : String) :
    ((javadocLines depth text).any fun line => findsEscape false line.text.toList) =
      findsEscape false text.toList := by
  have hfirst : findsEscape false "/**".toList = false := by decide
  have hlast : findsEscape false " */".toList = false := by decide
  rw [javadocLines, docComment, ← findsEscapeInLines_lines, findsEscapeInLines_false]
  simp only [List.map_cons, List.map_append, List.map_nil, List.any_cons, List.any_append,
    List.any_nil, List.any_map, Function.comp_def, findsEscape_docLine, hfirst, hlast,
    Bool.false_or, Bool.or_false]

/-- The text of a method has the escapes of its documentation, its signature and its statements. -/
theorem findsEscape_method (indent depth : Nat) (method : Method) :
    findsEscape false ((Step.method method).render indent depth).toList =
      ((method.doc?.any fun doc => findsEscape false doc.toList) ||
        (findsEscape false method.signature.toList ||
          method.body.any fun statement => findsEscape false statement.toList)) := by
  have hdoc : ((method.doc?.map (javadocLines depth)).getD []).any
        (fun line => findsEscape false line.text.toList) =
      method.doc?.any fun doc => findsEscape false doc.toList := by
    cases method.doc? with
    | none => rfl
    | some doc => exact any_findsEscape_javadocLines depth doc
  have hopening (signature : String) : findsEscape false (signature ++ " \x7b").toList =
      findsEscape false signature.toList := by
    rw [String.toList_append]
    exact findsEscape_append_end (by decide) (by decide) (by decide) false _
  have hstatement (statement : String) : findsEscape false (statement ++ ";").toList =
      findsEscape false statement.toList := by
    rw [String.toList_append]
    exact findsEscape_append_end (by decide) (by decide) (by decide) false _
  have hclosing : findsEscape false "\x7d".toList = false := by decide
  rw [Step.render, findsEscape_renderLines, Step.lines, Method.lines]
  simp only [List.any_append, List.any_cons, List.any_nil, List.any_map, Function.comp_def, hdoc,
    openingLine, statementLine, closingLine, hopening, hstatement, hclosing, Bool.or_false]

/-- The parameters of a method as they stand in its signature. -/
def Method.parametersText (method : Method) : String :=
  ", ".intercalate <| method.parameters.map fun parameter =>
    parameter.type.javaType ++ " " ++ parameter.name

theorem findsEscape_signature {method : Method}
    (hparameters : '\\' ∉ method.parametersText.toList) :
    findsEscape false method.signature.toList =
      (findsEscape false method.returnType.javaType.toList ||
        findsEscape false method.name.toList) := by
  have hsignature : method.signature.toList =
      "public ".toList ++ (method.returnType.javaType.toList ++
        ' ' :: (method.name.toList ++ '(' :: (method.parametersText.toList ++ [')']))) := by
    simp [Method.signature, Method.parametersText]
  rw [hsignature, findsEscape_append_of_plain (by decide),
    findsEscape_append_cons (by decide) (by decide), findsEscape_append_end (by decide) (by decide)]
  rw [List.mem_append, not_or]
  exact ⟨hparameters, by decide⟩

/-! ## Accessors -/

/-- A call of a store method holds no escape, whatever the key is. -/
theorem findsEscape_storeCall (start receiver verb argument ending : String)
    (hbefore : '\\' ∉ (start ++ receiver ++ verb).toList)
    (hbehind : '\\' ∉ (argument ++ ending).toList) (preference : Preference) :
    findsEscape false (start ++ storeCall receiver verb preference argument ++ ending).toList =
      false := by
  have hcall : (start ++ storeCall receiver verb preference argument ++ ending).toList =
      (start ++ receiver ++ "." ++ verb ++ preference.valueType.storeSuffix ++ "(\"").toList ++
        (preference.key.toList.flatMap escapeChar ++ ("\", " ++ argument ++ ")" ++ ending).toList) := by
    simp [storeCall, stringLiteral, literalChars]
  have hsuffix : '\\' ∉ preference.valueType.storeSuffix.toList := by
    cases preference.valueType <;> decide
  rw [hcall, findsEscape_append_of_plain, findsEscape_flatMap_escapeChar, findsEscape_of_plain]
  · simpa using hbehind
  · simp only [String.toList_append, List.mem_append, not_or] at hbefore ⊢
    exact ⟨⟨⟨⟨hbefore.1, by decide⟩, hbefore.2⟩, hsuffix⟩, by decide⟩

section

variable {preference : Preference} {mode : EditorMode} {method : Method}

theorem mem_accessors_iff (hdefault : preference.default? = none) :
    method ∈ ({} : Receivers).accessors mode preference ↔
      method = ({} : Receivers).getter preference ∨
        method = ({} : Receivers).setter mode preference := by
  simp [Receivers.mem_accessors_iff, hdefault]

theorem findsEscape_body (hdefault : preference.default? = none)
    (hmethod : method ∈ ({} : Receivers).accessors mode preference) {statement : String}
    (hstatement : statement ∈ method.body) : findsEscape false statement.toList = false := by
  rcases (mem_accessors_iff hdefault).mp hmethod with rfl | rfl
  · obtain rfl := List.mem_singleton.mp hstatement
    have hread := findsEscape_storeCall "return " "backend" "get" fallbackParameter "" (by decide)
      (by decide) preference
    rwa [String.append_empty] at hread
  · cases mode with
    | immediate =>
      obtain rfl := List.mem_singleton.mp hstatement
      have hwrite := findsEscape_storeCall "" "backend.edit()" "put" valueParameter ".apply()"
        (by decide) (by decide) preference
      rwa [String.empty_append] at hwrite
    | chained editorType =>
      rcases List.mem_cons.mp hstatement with rfl | hstatement
      · have hwrite := findsEscape_storeCall "" "editor" "put" valueParameter "" (by decide)
          (by decide) preference
        rwa [String.empty_append, String.append_empty] at hwrite
      · obtain rfl := List.mem_singleton.mp hstatement
        decide

theorem findsEscape_getterDoc :
    findsEscape false (getterDocHead preference ++ ".\n@param " ++ fallbackParameter ++
      " the default value to use").toList = findsEscape false preference.key.toList := by
  have hdoc : (getterDocHead preference ++ ".\n@param " ++ fallbackParameter ++
        " the default value to use").toList =
      "gets '".toList ++ (preference.key.toList ++ '\'' ::
        (" from the preferences.\n@param " ++ fallbackParameter ++
          " the default value to use").toList) := by
    simp [getterDocHead]
  rw [hdoc, findsEscape_append_of_plain (by decide),
    findsEscape_append_end (by decide) (by decide) (by decide)]

/-- The key stands twice in the documentation of a setter. -/
theorem findsEscape_setterDoc (hdescription : preference.description? = none) :
    findsEscape false (setterDoc preference).toList = findsEscape false preference.key.toList := by
  have hdoc : (setterDoc preference).toList =
      "sets '".toList ++ (preference.key.toList ++ '\'' ::
        ((" in the preferences.\n@param " ++ valueParameter ++ " the new value for ").toList ++
          preference.key.toList)) := by
    simp [setterDoc, accessorDoc, hdescription]
  rw [hdoc, findsEscape_append_of_plain (by decide),
    findsEscape_append_cons (by decide) (by decide), findsEscape_append_of_plain (by decide),
    Bool.or_self]

theorem any_findsEscape_doc (hdescription : preference.description? = none)
    (hdefault : preference.default? = none)
    (hmethod : method ∈ ({} : Receivers).accessors mode preference) :
    (method.doc?.any fun doc => findsEscape false doc.toList) =
      findsEscape false preference.key.toList := by
  rcases (mem_accessors_iff hdefault).mp hmethod with rfl | rfl
  · rw [Receivers.getter, accessorDoc, hdescription, Option.any_some, findsEscape_getterDoc]
  · rw [Receivers.doc?_setter, Option.any_some, findsEscape_setterDoc hdescription]

theorem backslash_notMem_parametersText (hdefault : preference.default? = none)
    (hmethod : method ∈ ({} : Receivers).accessors mode preference) :
    '\\' ∉ method.parametersText.toList := by
  rcases (mem_accessors_iff hdefault).mp hmethod with rfl | rfl
  · rw [Method.parametersText, Receivers.parameters_getter]
    cases preference.valueType <;> decide
  · rw [Method.parametersText, Receivers.parameters_setter]
    cases preference.valueType <;> decide

/-- The text of an accessor holds the escapes of its key and of the names in its signature. -/
theorem findsEscape_accessor (hdescription : preference.description? = none)
    (hdefault : preference.default? = none)
    (hmethod : method ∈ ({} : Receivers).accessors mode preference) (indent depth : Nat) :
    findsEscape false ((Step.method method).render indent depth).toList =
      (findsEscape false preference.key.toList ||
        (findsEscape false method.returnType.javaType.toList ||
          findsEscape false method.name.toList)) := by
  have hbody : (method.body.any fun statement => findsEscape false statement.toList) = false :=
    List.any_eq_false.mpr fun statement hstatement =>
      Bool.eq_false_iff.mp (findsEscape_body hdefault hmethod hstatement)
  rw [findsEscape_method, any_findsEscape_doc hdescription hdefault hmethod,
    findsEscape_signature (backslash_notMem_parametersText hdefault hmethod), hbody, Bool.or_false]

theorem eq_backslash_of_mem_toUpper {char : Char} (hmem : '\\' ∈ Text.toUpper char) :
    char = '\\' :=
  Text.CaseMapping.eq_of_mem_apply (by decide +kernel) (by decide) hmem

theorem backslash_notMem_capitalizedAccessor (haccessor : '\\' ∉ preference.accessor.toList) :
    '\\' ∉ preference.capitalizedAccessor.toList := by
  rw [Preference.capitalizedAccessor, Name.capitalize, String.toList_ofList]
  cases hchars : preference.accessor.toList with
  | nil => exact List.not_mem_nil
  | cons char rest =>
    rw [hchars, List.mem_cons, not_or] at haccessor
    rw [Name.capitalizeChars, List.mem_append, not_or]
    exact ⟨fun hmem => haccessor.1 (eq_backslash_of_mem_toUpper hmem).symm, haccessor.2⟩

/-- Names without backslashes make signatures without escapes. -/
theorem findsEscape_names (hdefault : preference.default? = none)
    (hmethod : method ∈ ({} : Receivers).accessors mode preference)
    (haccessor : '\\' ∉ preference.accessor.toList)
    (hgetterPrefix : '\\' ∉ preference.getterPrefix.toList)
    (heditor : ∀ editorType ∈ mode.editorType?, '\\' ∉ editorType.toList) :
    findsEscape false method.returnType.javaType.toList = false ∧
      findsEscape false method.name.toList = false := by
  have hcapitalized := backslash_notMem_capitalizedAccessor haccessor
  rcases (mem_accessors_iff hdefault).mp hmethod with rfl | rfl
  · refine ⟨?_, findsEscape_of_plain ?_⟩
    · have htype : (({} : Receivers).getter preference).returnType.javaType =
          preference.valueType.javaType := rfl
      rw [htype]
      cases preference.valueType <;> decide
    · rw [Receivers.name_getter, Preference.getterName, String.toList_append, List.mem_append,
        not_or]
      exact ⟨hgetterPrefix, hcapitalized⟩
  · refine ⟨?_, findsEscape_of_plain ?_⟩
    · cases mode with
      | immediate => exact findsEscape_of_plain (show '\\' ∉ "void".toList by decide)
      | chained editorType => exact findsEscape_of_plain (heditor editorType rfl)
    · rw [Receivers.name_setter, Preference.setterName, String.toList_append, List.mem_append,
        not_or]
      exact ⟨by decide, hcapitalized⟩

/-- Without a description and a default, the text of an accessor holds a Unicode escape exactly if
its key or a name in its signature does. Where the names have no backslash, the key alone decides,
through the documentation: no statement holds an escape. -/
theorem holdsUnicodeEscape_render_accessor (hdescription : preference.description? = none)
    (hdefault : preference.default? = none)
    (hmethod : method ∈ ({} : Receivers).accessors mode preference) (indent depth : Nat) :
    (HoldsUnicodeEscape ((Step.method method).render indent depth).toList ↔
      HoldsUnicodeEscape preference.key.toList ∨
        HoldsUnicodeEscape method.returnType.javaType.toList ∨
          HoldsUnicodeEscape method.name.toList) ∧
    ('\\' ∉ preference.accessor.toList → '\\' ∉ preference.getterPrefix.toList →
      (∀ editorType ∈ mode.editorType?, '\\' ∉ editorType.toList) →
        (HoldsUnicodeEscape ((Step.method method).render indent depth).toList ↔
          HoldsUnicodeEscape preference.key.toList)) ∧
    ∀ statement ∈ method.body, ¬ HoldsUnicodeEscape statement.toList := by
  have htext := findsEscape_accessor hdescription hdefault hmethod indent depth
  simp only [holdsUnicodeEscape_iff]
  refine ⟨?_, fun haccessor hgetterPrefix heditor => ?_, fun statement hstatement => ?_⟩
  · rw [htext, Bool.or_eq_true, Bool.or_eq_true]
  · obtain ⟨htype, hname⟩ := findsEscape_names hdefault hmethod haccessor hgetterPrefix heditor
    rw [htext, htype, hname, Bool.or_false, Bool.or_false]
  · exact Bool.eq_false_iff.mp (findsEscape_body hdefault hmethod hstatement)

end

/-- A preference without a description and a default, stored under the given key. -/
def homeUnder (key : String) : Preference := Preference.resolve { name := "home" } none (some key)

/-- The chained setter for a path with a single backslash holds an escape, and the one for a path
with a doubled backslash does not. -/
theorem holdsUnicodeEscape_render_accessor_of_paths :
    (homeUnder "C:\\users").description? = none ∧ (homeUnder "C:\\users").default? = none ∧
    ({} : Receivers).chainedSetter (homeUnder "C:\\users") "Editor" ∈
      ({} : Receivers).accessors (.chained "Editor") (homeUnder "C:\\users") ∧
    '\\' ∉ (homeUnder "C:\\users").accessor.toList ∧
    '\\' ∉ (homeUnder "C:\\users").getterPrefix.toList ∧
    (∀ editorType ∈ (EditorMode.chained "Editor").editorType?, '\\' ∉ editorType.toList) ∧
    HoldsUnicodeEscape ((Step.method (({} : Receivers).chainedSetter (homeUnder "C:\\users")
      "Editor")).render 4 1).toList ∧
    ¬ HoldsUnicodeEscape ((Step.method (({} : Receivers).chainedSetter (homeUnder "C:\\\\users")
      "Editor")).render 4 1).toList := by
  have hmem (key : String) : ({} : Receivers).chainedSetter (homeUnder key) "Editor" ∈
      ({} : Receivers).accessors (.chained "Editor") (homeUnder key) :=
    (mem_accessors_iff rfl).mpr (Or.inr rfl)
  have haccessor : '\\' ∉ (Name.camelCase "home").toList := by decide
  have heditor : ∀ editorType ∈ (EditorMode.chained "Editor").editorType?,
      '\\' ∉ editorType.toList := by
    rintro _ ⟨⟩
    decide
  have hsingle := holdsUnicodeEscape_render_accessor rfl rfl (hmem "C:\\users") 4 1
  have hdoubled := holdsUnicodeEscape_render_accessor rfl rfl (hmem "C:\\\\users") 4 1
  refine ⟨rfl, rfl, hmem _, haccessor, by decide, heditor, ?_, ?_⟩
  · rw [hsingle.2.1 haccessor (by decide) heditor]
    decide
  · rw [hdoubled.2.1 haccessor (by decide) heditor]
    decide

/-- A path is enough for an escape in every accessor, whatever the editor mode is. -/
theorem accessors_hold_unicodeEscape_of_path :
    (homeUnder "C:\\users").description? = none ∧ (homeUnder "C:\\users").default? = none ∧
    '\\' ∉ (homeUnder "C:\\users").accessor.toList ∧ '\\' ∉ "Editor".toList ∧
    (∀ method ∈ ({} : Receivers).accessors .immediate (homeUnder "C:\\users"),
      HoldsUnicodeEscape ((Step.method method).render 4 1).toList) ∧
    ∀ method ∈ ({} : Receivers).accessors (.chained "Editor") (homeUnder "C:\\users"),
      HoldsUnicodeEscape ((Step.method method).render 4 1).toList := by
  have hkey : findsEscape false (homeUnder "C:\\users").key.toList = true := by decide
  have hevery {mode : EditorMode} : ∀ method ∈
      ({} : Receivers).accessors mode (homeUnder "C:\\users"),
      HoldsUnicodeEscape ((Step.method method).render 4 1).toList := by
    intro method hmethod
    rw [holdsUnicodeEscape_iff, findsEscape_accessor rfl rfl hmethod, hkey, Bool.true_or]
  exact ⟨rfl, rfl, by decide, by decide, hevery, hevery⟩

end PrefAccessors.Wrapper
