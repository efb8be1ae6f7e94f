import PrefAccessors.Proofs.UnicodeEscapes

/-! # Where string literals end

What the scanner accepts between the quotation marks of a literal is a row of plain
characters and of escapes, each a backslash with its code. Behind such a row the
closing backslashes are even in number, and before a quotation mark inside of it they
are odd. So a literal ends at its first quotation mark that is not escaped. The
literal of a text is of this form, whatever the text holds: it tells by itself where
it ends, and no other text has the same literal.
-/

namespace PrefAccessors.Wrapper

/-! ## What the scanner accepts -/

/-- The characters that can stand behind a backslash in a literal, with what they stand for. -/
def escapes : List (Char × Char) :=
  [('"', '"'), ('\\', '\\'), ('n', '\n'), ('r', '\r'), ('t', '\t')]

/-- The characters between the quotation marks of a literal stand for a text. -/
inductive StandsFor : List Char → List Char → Prop
  | nil : StandsFor [] []
  | plain {char : Char} {body text : List Char} (hchar : char ∉ ['"', '\\', '\n', '\r'])
    (hrest : StandsFor body text) : StandsFor (char :: body) (char :: text)
  | escape {code char : Char} {body text : List Char} (hcode : (code, char) ∈ escapes)
    (hrest : StandsFor body text) : StandsFor ('\\' :: code :: body) (char :: text)

theorem escapedChar?_eq_some_iff {code char : Char} :
    escapedChar? code = some char ↔ (code, char) ∈ escapes := by
  unfold escapedChar? escapes
  split
  all_goals simp_all [eq_comm]

theorem scanLiteralBody?_eq_some_iff {text value rest : List Char} :
    scanLiteralBody? text = some (value, rest) ↔
      ∃ body, text = body ++ '"' :: rest ∧ StandsFor body value := by
  constructor
  · intro hscan
    fun_induction scanLiteralBody? text generalizing value with
    | case1 => cases hscan
    | case2 code later ih =>
      obtain ⟨char, hcode, hlater⟩ := Option.bind_eq_some_iff.mp hscan
      obtain ⟨⟨scanned, behind⟩, hscanned, heq⟩ := Option.map_eq_some_iff.mp hlater
      obtain ⟨rfl, rfl⟩ := Prod.mk.inj heq
      obtain ⟨body, rfl, hbody⟩ := ih hscanned
      exact ⟨_, rfl, .escape (escapedChar?_eq_some_iff.mp hcode) hbody⟩
    | case3 later =>
      obtain ⟨rfl, rfl⟩ := Prod.mk.inj (Option.some.inj hscan)
      exact ⟨[], rfl, .nil⟩
    | case4 => cases hscan
    | case5 char later _ hquote hstop ih =>
      obtain ⟨⟨scanned, behind⟩, hscanned, heq⟩ := Option.map_eq_some_iff.mp hscan
      obtain ⟨rfl, rfl⟩ := Prod.mk.inj heq
      obtain ⟨body, rfl, hbody⟩ := ih hscanned
      refine ⟨char :: body, rfl, .plain ?_ hbody⟩
      simp only [List.mem_cons, List.not_mem_nil, or_false, not_or] at hstop ⊢
      exact ⟨hquote, hstop⟩
  · rintro ⟨body, rfl, hbody⟩
    induction hbody with
    | nil => rfl
    | plain hchar _ ih => rw [List.cons_append, scanLiteralBody?_plain hchar, ih, Option.map_some]
    | escape hcode _ ih =>
      rw [List.cons_append, List.cons_append, scanLiteralBody?, escapedChar?_eq_some_iff.mpr hcode,
        ih]
      rfl

theorem scanLiteral?_eq_some_iff {text value rest : List Char} :
    scanLiteral? text = some (value, rest) ↔
      ∃ body, text = '"' :: (body ++ '"' :: rest) ∧ StandsFor body value := by
  unfold scanLiteral?
  split
  next behind => rw [scanLiteralBody?_eq_some_iff]; simp only [List.cons.injEq, true_and]
  next hquote =>
    constructor
    · nofun
    · rintro ⟨body, rfl, _⟩
      exact absurd rfl (hquote _)

/-- What is read as a literal is read as the same one with more text behind it. -/
theorem scanLiteral?_append {text value rest : List Char}
    (hscan : scanLiteral? text = some (value, rest)) (more : List Char) :
    scanLiteral? (text ++ more) = some (value, rest ++ more) := by
  obtain ⟨body, rfl, hbody⟩ := scanLiteral?_eq_some_iff.mp hscan
  exact scanLiteral?_eq_some_iff.mpr ⟨body, by simp, hbody⟩

/-! ## The first quotation mark that is not escaped -/

/-- Whether the literal at the start of a text ends right before `rest`: at the first quotation
mark behind the opening one that no backslash escapes, since an even number of them stands before
it. -/
def EndsBefore (text rest : List Char) : Prop :=
  ∃ body, text = '"' :: (body ++ '"' :: rest) ∧ closingBackslashes body % 2 = 0 ∧
    ∀ before after, body = before ++ '"' :: after → closingBackslashes before % 2 = 1

/-- A text up to a quotation mark that is not escaped is no beginning of a text in which all of them
are. -/
theorem eq_of_append_quote {body longer tail rest other : List Char}
    (heven : closingBackslashes body % 2 = 0)
    (hodd : ∀ before after, longer = before ++ '"' :: after → closingBackslashes before % 2 = 1)
    (hlonger : longer = body ++ tail) (hrest : '"' :: rest = tail ++ '"' :: other) :
    rest = other := by
  cases tail with
  | nil => exact (List.cons.inj hrest).2
  | cons head tail =>
    obtain ⟨rfl, _⟩ := List.cons.inj hrest
    have := hodd body tail hlonger
    omega

theorem EndsBefore.unique {text rest other : List Char} (hrest : EndsBefore text rest)
    (hother : EndsBefore text other) : rest = other := by
  obtain ⟨body, rfl, heven, hodd⟩ := hrest
  obtain ⟨body', heq, heven', hodd'⟩ := hother
  rcases List.append_eq_append_iff.mp (List.cons.inj heq).2 with
    ⟨tail, hbody', htail⟩ | ⟨tail, hbody, htail⟩
  · exact eq_of_append_quote heven hodd' hbody' htail
  · exact (eq_of_append_quote heven' hodd hbody htail).symm

theorem even_closingBackslashes_plain {char : Char} (hchar : char ∉ ['"', '\\', '\n', '\r'])
    (seen : List Char) : closingBackslashes (seen ++ [char]) % 2 = 0 := by
  rw [closingBackslashes_append_singleton, if_neg]
  rintro rfl
  exact hchar (by decide)

theorem even_closingBackslashes_escape {seen : List Char} (hseen : closingBackslashes seen % 2 = 0)
    (code : Char) : closingBackslashes (seen ++ ['\\'] ++ [code]) % 2 = 0 := by
  rw [closingBackslashes_append_singleton, closingBackslashes_append_singleton, if_pos rfl]
  split
  next => omega
  next => rfl

namespace StandsFor

/-- Behind an even number of backslashes, a body closes with an even number again. -/
theorem even_closingBackslashes {body value : List Char} (hbody : StandsFor body value)
    {seen : List Char} (hseen : closingBackslashes seen % 2 = 0) :
    closingBackslashes (seen ++ body) % 2 = 0 := by
  induction hbody generalizing seen with
  | nil => rwa [List.append_nil]
  | plain hchar _ ih =>
    rw [List.append_cons]
    exact ih (even_closingBackslashes_plain hchar seen)
  | escape _ _ ih =>
    rw [List.append_cons, List.append_cons]
    exact ih (even_closingBackslashes_escape hseen _)

/-- Every quotation mark of a body is the code of an escape, and is itself escaped so. -/
theorem odd_closingBackslashes {body value : List Char} (hbody : StandsFor body value)
    {seen : List Char} (hseen : closingBackslashes seen % 2 = 0) {before after : List Char}
    (heq : body = before ++ '"' :: after) : closingBackslashes (seen ++ before) % 2 = 1 := by
  induction hbody generalizing seen before with
  | nil => simp at heq
  | plain hchar _ ih =>
    cases before with
    | nil =>
      obtain ⟨rfl, _⟩ := List.cons.inj heq
      exact absurd (by decide) hchar
    | cons head before =>
      obtain ⟨rfl, hlater⟩ := List.cons.inj heq
      rw [List.append_cons]
      exact ih (even_closingBackslashes_plain hchar seen) hlater
  | escape _ _ ih =>
    match before, heq with
    | [], heq => exact absurd (List.cons.inj heq).1 (by decide)
    | [head], heq =>
      obtain ⟨rfl, _⟩ := List.cons.inj heq
      rw [closingBackslashes_append_singleton, if_pos rfl]
      omega
    | head :: code :: before, heq =>
      obtain ⟨hhead, hbehind⟩ := List.cons.inj heq
      obtain ⟨rfl, hlater⟩ := List.cons.inj hbehind
      rw [← hhead, List.append_cons, List.append_cons]
      exact ih (even_closingBackslashes_escape hseen _) hlater

end StandsFor

/-- The scanner stops at the first quotation mark that is not escaped. -/
theorem endsBefore_of_scanLiteral? {text value rest : List Char}
    (hscan : scanLiteral? text = some (value, rest)) : EndsBefore text rest := by
  obtain ⟨body, rfl, hbody⟩ := scanLiteral?_eq_some_iff.mp hscan
  have hstart : closingBackslashes [] % 2 = 0 := rfl
  exact ⟨body, rfl, hbody.even_closingBackslashes hstart,
    fun _ _ => hbody.odd_closingBackslashes hstart⟩

/-! ## The literal of a text -/

theorem scanLiteral?_stringLiteral (value : String) (rest : List Char) :
    scanLiteral? ((stringLiteral value).toList ++ rest) = some (value.toList, rest) := by
  rw [stringLiteral, String.toList_ofList]
  exact scanLiteral?_literalChars value.toList rest

/-- A text that begins with a literal is cut behind it in one way only. -/
theorem stringLiteral_append_inj {value other : String} {rest more : List Char}
    (heq : (stringLiteral value).toList ++ rest = (stringLiteral other).toList ++ more) :
    value = other ∧ rest = more := by
  have hboth : some (value.toList, rest) = some (other.toList, more) := by
    rw [← scanLiteral?_stringLiteral value rest, heq, scanLiteral?_stringLiteral other more]
  obtain ⟨hvalue, hrest⟩ := Prod.mk.inj (Option.some.inj hboth)
  exact ⟨String.toList_inj.mp hvalue, hrest⟩

theorem scanLiteral?_of_beginning {value : String} {before after : List Char}
    (heq : (stringLiteral value).toList = before ++ after) (hafter : after ≠ []) :
    scanLiteral? before = none := by
  rw [Option.eq_none_iff_forall_ne_some]
  rintro ⟨found, behind⟩ hfound
  -- With the missing end, the whole literal would be read and leave something behind it.
  have hwhole := scanLiteral?_append hfound after
  rw [← heq, ← List.append_nil (stringLiteral value).toList, scanLiteral?_stringLiteral] at hwhole
  have hnil := (Prod.mk.inj (Option.some.inj hwhole)).2
  exact hafter (List.append_eq_nil_iff.mp hnil.symm).2

/-- The literal of a text is read back as that text, and what follows it is left, whatever both
are. It ends nowhere but at its last character: no other quotation mark behind the first is free of
an escape, and no beginning of it is a literal. So a text that begins with a literal is cut in one
way only, and no two texts have the same literal. -/
theorem stringLiteral_endsItself (value : String) (rest : List Char) :
    scanLiteral? ((stringLiteral value).toList ++ rest) = some (value.toList, rest) ∧
    (∀ behind, EndsBefore ((stringLiteral value).toList ++ rest) behind ↔ behind = rest) ∧
    (∀ before after, (stringLiteral value).toList = before ++ after → after ≠ [] →
      scanLiteral? before = none) ∧
    (∀ other more, (stringLiteral value).toList ++ rest = (stringLiteral other).toList ++ more →
      value = other ∧ rest = more) ∧
    Function.Injective stringLiteral := by
  have hscan := scanLiteral?_stringLiteral value rest
  have hends := endsBefore_of_scanLiteral? hscan
  refine ⟨hscan, fun behind => ⟨fun hbehind => hbehind.unique hends, ?_⟩,
    fun before after => scanLiteral?_of_beginning, fun other more => stringLiteral_append_inj, ?_⟩
  · rintro rfl
    exact hends
  · intro text other heq
    have happend : (stringLiteral text).toList ++ [] = (stringLiteral other).toList ++ [] := by
      rw [heq]
    exact (stringLiteral_append_inj happend).1

example : scanLiteral? ((stringLiteral "C:\\").toList ++ "\", value)".toList) =
    some ("C:\\".toList, "\", value)".toList) := by decide

end PrefAccessors.Wrapper
