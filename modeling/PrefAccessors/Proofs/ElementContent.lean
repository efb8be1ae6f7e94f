import PrefAccessors.Proofs.DocumentBeginnings

/-! # The content of an entry

An attribute value is unescaped as a whole, while the content of an element is read
piece by piece: runs of plain text, and the references between them. Both accept the
same texts and give them the same meaning. A text without `<` is cut into its pieces
once, and each of the two ways to decode it follows these pieces.
-/

namespace PrefAccessors

open Markup

/-! ## Text between tags -/

/-- Whether a character can stand in a reference. -/
def Markup.isInReference (char : Char) : Bool := char != ';' && char != '&' && char != '<'

/-- A text is at its end, or a reference begins. -/
def Markup.StopsPlain (text : List Char) : Prop := text = [] ∨ ∃ rest, text = '&' :: rest

/-- How a text without `<` is made of plain text and references, up to one that is not closed. -/
inductive Markup.Content : List Char → Prop
  | nil : Content []
  | plain {run tail : List Char} (hrun : ∀ char ∈ run, isPlain char) (hne : run ≠ [])
    (hstop : StopsPlain tail) (htail : Content tail) : Content (run ++ tail)
  | reference {name tail : List Char} (hname : ∀ char ∈ name, isInReference char)
    (htail : Content tail) : Content ('&' :: (name ++ ';' :: tail))
  | unclosed {name tail : List Char} (hname : ∀ char ∈ name, isInReference char)
    (hstop : StopsPlain tail) : Content ('&' :: (name ++ tail))

theorem Markup.dropWhile_eq_nil_or_cons {value : List Char} (hopen : '<' ∉ value)
    (inside : Char → Bool) :
    value.dropWhile inside = [] ∨
      ∃ char rest, value.dropWhile inside = char :: rest ∧ inside char = false ∧ char ≠ '<' := by
  cases hdrop : value.dropWhile inside with
  | nil => exact .inl rfl
  | cons char rest =>
    have hhead := List.head?_dropWhile_not inside value
    rw [hdrop] at hhead
    have hmem : char ∈ value := (List.dropWhile_sublist inside).subset (by simp [hdrop])
    exact .inr ⟨char, rest, rfl, by simpa using hhead, fun hchar => hopen (hchar ▸ hmem)⟩

/-- Without tags, plain text ends only where a reference begins. -/
theorem Markup.stopsPlain_dropWhile {value : List Char} (hopen : '<' ∉ value) :
    StopsPlain (value.dropWhile isPlain) := by
  rcases dropWhile_eq_nil_or_cons hopen isPlain with hnil | ⟨char, rest, hcons, hchar, hne⟩
  · exact .inl hnil
  · have hamp : char = '&' := by simpa [isPlain, hne] using hchar
    exact .inr ⟨rest, by rw [hcons, hamp]⟩

/-- A reference is closed, or another one begins inside it, or the text ends. -/
theorem Markup.stopsPlain_or_closed {value : List Char} (hopen : '<' ∉ value) :
    StopsPlain (value.dropWhile isInReference) ∨
      ∃ rest, value.dropWhile isInReference = ';' :: rest := by
  rcases dropWhile_eq_nil_or_cons hopen isInReference with hnil | ⟨char, rest, hcons, hchar, hne⟩
  · exact .inl (.inl hnil)
  · by_cases hclose : char = ';'
    · exact .inr ⟨rest, by rw [hcons, hclose]⟩
    · have hamp : char = '&' := by simpa [isInReference, hclose, hne] using hchar
      exact .inl (.inr ⟨rest, by rw [hcons, hamp]⟩)

/-- Every text without `<` is made this way. -/
theorem Markup.content_of_notMem {value : List Char} (hopen : '<' ∉ value) : Content value := by
  -- The induction is on the length, since a piece can have many characters.
  induction hlength : value.length using Nat.strongRecOn generalizing value with
  | _ length ih =>
    cases value with
    | nil => exact .nil
    | cons char rest =>
      rw [List.mem_cons, not_or] at hopen
      obtain ⟨hchar, hrest⟩ := hopen
      have hbehind {tail : List Char} (htail : tail <:+ rest) : Content tail := by
        refine ih tail.length ?_ (fun hmem => hrest (htail.subset hmem)) rfl
        rw [← hlength]
        exact Nat.lt_succ_of_le htail.length_le
      by_cases hplain : isPlain char
      · have hrun : ∀ other ∈ char :: rest.takeWhile isPlain, isPlain other :=
          List.forall_mem_cons.mpr ⟨hplain, fun _ => List.mem_takeWhile_imp⟩
        have hcontent := Content.plain hrun (List.cons_ne_nil _ _) (stopsPlain_dropWhile hrest)
          (hbehind (List.dropWhile_suffix isPlain))
        rwa [List.cons_append, List.takeWhile_append_dropWhile] at hcontent
      · have hamp : char = '&' := by simpa [isPlain, Ne.symm hchar] using hplain
        have hname : ∀ other ∈ rest.takeWhile isInReference, isInReference other :=
          fun _ => List.mem_takeWhile_imp
        rw [hamp, ← List.takeWhile_append_dropWhile (p := isInReference) (l := rest)]
        rcases stopsPlain_or_closed hrest with hstop | ⟨other, hcons⟩
        · exact .unclosed hname hstop
        · have hother : other <:+ rest :=
            (List.suffix_cons ';' other).trans (hcons ▸ List.dropWhile_suffix isInReference)
          rw [hcons]
          exact .reference hname (hbehind hother)

/-! ## Two ways to decode -/

theorem unescapeFrom_append_of_plain {run : List Char} (hrun : ∀ char ∈ run, isPlain char)
    (rest : List Char) :
    unescapeFrom none (run ++ rest) = (unescapeFrom none rest).map (run ++ ·) := by
  induction run with
  | nil => simp
  | cons char run ih =>
    rw [List.forall_mem_cons] at hrun
    have hchar : char ≠ '&' := by
      intro heq
      simp [heq, isPlain] at hrun
    rw [List.cons_append, unescapeFrom]
    simp only [if_neg hchar, ih hrun.2, Option.map_map]
    rfl

theorem unescapeFrom_append_of_isInReference {chars : List Char}
    (hchars : ∀ char ∈ chars, isInReference char) (name rest : List Char) :
    unescapeFrom (some name) (chars ++ rest) = unescapeFrom (some (name ++ chars)) rest := by
  induction chars generalizing name with
  | nil => simp
  | cons char chars ih =>
    rw [List.forall_mem_cons] at hchars
    have hchar : char ≠ ';' ∧ char ≠ '&' := by
      obtain ⟨⟨hclose, hamp⟩, _⟩ := by simpa [isInReference] using hchars.1
      exact ⟨hclose, hamp⟩
    rw [List.cons_append, unescapeFrom]
    simp only [if_neg hchar.1, if_neg hchar.2, ih hchars.2, List.append_assoc, List.singleton_append]

theorem unescape?_reference {name : List Char} (hname : ∀ char ∈ name, isInReference char)
    (tail : List Char) :
    unescape? ('&' :: (name ++ ';' :: tail)) =
      match resolveReference name with
      | .ok char => (unescape? tail).map (char :: ·)
      | .error _ => none := by
  rw [unescape?, unescapeFrom, if_pos rfl, unescapeFrom_append_of_isInReference hname, unescapeFrom]
  rfl

theorem unescape?_unclosed {name tail : List Char} (hname : ∀ char ∈ name, isInReference char)
    (hstop : StopsPlain tail) : unescape? ('&' :: (name ++ tail)) = none := by
  rw [unescape?, unescapeFrom, if_pos rfl, unescapeFrom_append_of_isInReference hname]
  rcases hstop with rfl | ⟨rest, rfl⟩ <;> rfl

/-- Before a tag, a text that stops plain text goes on with markup. -/
theorem Markup.StopsPlain.exists_cons {tail : List Char} (hstop : StopsPlain tail)
    (more : List Char) :
    ∃ char rest, tail ++ '<' :: more = char :: rest ∧ (char = '&' ∨ char = '<') := by
  rcases hstop with rfl | ⟨rest, rfl⟩
  · exact ⟨'<', more, rfl, .inr rfl⟩
  · exact ⟨'&', rest ++ '<' :: more, rfl, .inl rfl⟩

theorem Markup.eventsOfText_plain {run tail : List Char} (hrun : ∀ char ∈ run, isPlain char)
    (hne : run ≠ []) (hstop : StopsPlain tail) (openNames : List String) (more : List Char) :
    eventsOfText openNames (run ++ (tail ++ '<' :: more)) =
      (eventsOfText openNames (tail ++ '<' :: more)).cons (.text (String.ofList run)) := by
  obtain ⟨char, rest, htext, hchar⟩ := hstop.exists_cons more
  have hmarkup : ¬ isPlain char = true := by rcases hchar with rfl | rfl <;> decide
  rw [htext, eventsOfText, lex_of_plain hrun hne, List.takeWhile_cons_of_neg hmarkup,
    List.dropWhile_cons_of_neg hmarkup, List.append_nil]
  rfl

theorem Markup.scanReference_eq (text : List Char) :
    scanReference text =
      match text.dropWhile isInReference with
      | ';' :: after => .ok (.reference (text.takeWhile isInReference), after)
      | _ => .error .unclosedReference := rfl

theorem Markup.eventsOfText_reference {name : List Char}
    (hname : ∀ char ∈ name, isInReference char) (openNames : List String) (more : List Char) :
    eventsOfText openNames ('&' :: (name ++ ';' :: more)) =
      (eventsOfText openNames more).cons (.reference (String.ofList name)) := by
  have hend : ¬ isInReference ';' = true := by decide
  have hscan : scanLexeme '&' (name ++ ';' :: more) = .ok (.reference name, more) := by
    change scanReference _ = _
    rw [scanReference_eq, List.dropWhile_append_of_pos hname, List.takeWhile_append_of_pos hname,
      List.dropWhile_cons_of_neg hend, List.takeWhile_cons_of_neg hend, List.append_nil]
    rfl
  rw [eventsOfText, lex_of_scan_ok hscan]
  rfl

theorem Markup.eventsOfText_unclosed {name tail : List Char}
    (hname : ∀ char ∈ name, isInReference char) (hstop : StopsPlain tail)
    (openNames : List String) (more : List Char) :
    eventsOfText openNames ('&' :: (name ++ (tail ++ '<' :: more))) =
      ⟨[], some .unclosedReference⟩ := by
  obtain ⟨char, rest, htext, hchar⟩ := hstop.exists_cons more
  have hend : ¬ isInReference char = true := by rcases hchar with rfl | rfl <;> decide
  have hscan : scanLexeme '&' (name ++ char :: rest) = .error .unclosedReference := by
    change scanReference _ = _
    rw [scanReference_eq, List.dropWhile_append_of_pos hname, List.dropWhile_cons_of_neg hend]
    rcases hchar with rfl | rfl <;> rfl
  rw [htext, eventsOfText, lex_of_scan_error hscan]
  rfl

/-! ## The content of an entry -/

theorem referredCharacter_of_ok (entry : Entry) {name : List Char} {char : Char}
    (hresolve : resolveReference name = .ok char) :
    referredCharacter entry (String.ofList name) = .ok char := by
  rw [referredCharacter, String.toList_ofList, hresolve]

theorem exists_referredCharacter_of_error (entry : Entry) {name : List Char}
    {fault : ReferenceFault} (hresolve : resolveReference name = .error fault) :
    ∃ error, referredCharacter entry (String.ofList name) = .error error := by
  rw [referredCharacter, String.toList_ofList, hresolve]
  cases fault <;> exact ⟨_, rfl⟩

/-- The content of an entry is what unescaping makes of it, and is rejected if that fails. -/
theorem Reading.resume_content {value : List Char} (hvalue : Content value) (openNames : List String)
    (more : List Char) (groups : List Group) (group : Group) (entry : Entry) (content : String) :
    match unescape? value with
    | some decoded =>
      Reading.resume ⟨groups, .inEntry group entry content 0⟩
          (eventsOfText openNames (value ++ '<' :: more)) =
        Reading.resume ⟨groups, .inEntry group entry (content ++ String.ofList decoded) 0⟩
          (eventsOfText openNames ('<' :: more))
    | none =>
      ∃ error, Reading.resume ⟨groups, .inEntry group entry content 0⟩
        (eventsOfText openNames (value ++ '<' :: more)) = .error error := by
  -- The content is general, since each piece extends it for those behind it.
  induction hvalue generalizing content with
  | nil => simp [unescape?, unescapeFrom]
  | @plain run tail hrun hne hstop htail ih =>
    have hdecode : unescape? (run ++ tail) = (unescape? tail).map (run ++ ·) :=
      unescapeFrom_append_of_plain hrun tail
    have hread : Reading.resume ⟨groups, .inEntry group entry content 0⟩
        (eventsOfText openNames (run ++ tail ++ '<' :: more)) =
          Reading.resume ⟨groups, .inEntry group entry (content ++ String.ofList run) 0⟩
            (eventsOfText openNames (tail ++ '<' :: more)) := by
      rw [List.append_assoc, eventsOfText_plain hrun hne hstop, resume_cons]
      rfl
    specialize ih (content ++ String.ofList run)
    rw [hdecode, hread]
    cases hdecoded : unescape? tail with
    | none => simpa [hdecoded] using ih
    | some decoded => simpa [hdecoded, String.append_assoc] using ih
  | @reference name tail hname htail ih =>
    have hread : Reading.resume ⟨groups, .inEntry group entry content 0⟩
        (eventsOfText openNames ('&' :: (name ++ ';' :: tail) ++ '<' :: more)) =
          referredCharacter entry (String.ofList name) >>= fun char =>
            Reading.resume ⟨groups, .inEntry group entry (content.push char) 0⟩
              (eventsOfText openNames (tail ++ '<' :: more)) := by
      rw [List.cons_append, List.append_assoc, List.cons_append, eventsOfText_reference hname,
        resume_cons]
      simp only [step, stepInEntry, map_eq_bind, bind_assoc, ok_bind]
    rw [unescape?_reference hname, hread]
    cases hresolve : resolveReference name with
    | error fault =>
      obtain ⟨error, herror⟩ := exists_referredCharacter_of_error entry hresolve
      exact ⟨error, by rw [herror, error_bind]⟩
    | ok char =>
      specialize ih (content.push char)
      rw [referredCharacter_of_ok entry hresolve, ok_bind]
      cases hdecoded : unescape? tail with
      | none => simpa [hdecoded] using ih
      | some decoded =>
        have hjoin : content ++ String.ofList (char :: decoded) =
            content.push char ++ String.ofList decoded := by
          rw [String.ofList_cons, ← String.append_assoc, ← String.push_eq_append]
        rw [hdecoded] at ih
        simp only [Option.map_some]
        rw [hjoin]
        exact ih
  | @unclosed name tail hname hstop =>
    rw [unescape?_unclosed hname hstop]
    refine ⟨.markup .unclosedReference, ?_⟩
    rw [List.cons_append, List.append_assoc, eventsOfText_unclosed hname hstop]
    rfl

end PrefAccessors
