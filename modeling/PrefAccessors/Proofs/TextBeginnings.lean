import Mathlib.Data.List.Basic
import Mathlib.Data.List.TakeWhile
import PrefAccessors.Markup.Lexing

/-! # The beginning of a text

Every construct ends at the first place where it can end, so the characters up to
that place decide what it is, whatever follows them. Only a run of plain text goes
on for as long as it can. The beginning of a text that is without fault by itself
therefore consists of constructs that stand in the whole text as well, and of plain
text at its end that may go on behind it.
-/

namespace PrefAccessors.Markup

/-! ## Closing marks -/

theorem cutAt?_self (mark more : List Char) : cutAt? mark (mark ++ more) = some ([], more) := by
  cases hchars : mark ++ more with
  | nil =>
    obtain ⟨rfl, rfl⟩ := List.append_eq_nil_iff.mp hchars
    rfl
  | cons char rest =>
    have hprefix : mark.isPrefixOf (char :: rest) := by
      rw [← hchars, List.isPrefixOf_iff_prefix]
      exact List.prefix_append mark more
    rw [cutAt?, if_pos hprefix, ← hchars, List.drop_left]

/-- What stands behind a mark does not move the first place where the mark is found. -/
theorem cutAt?_decided {mark text before after : List Char}
    (hcut : cutAt? mark text = some (before, after)) (more : List Char) :
    cutAt? mark (before ++ mark ++ more) = some (before, more) := by
  induction text generalizing before with
  | nil =>
    simp only [cutAt?] at hcut
    split at hcut
    next =>
      obtain ⟨rfl, _⟩ := Prod.mk.inj (Option.some.inj hcut)
      exact cutAt?_self mark more
    next => cases hcut
  | cons char rest ih =>
    simp only [cutAt?] at hcut
    split at hcut
    next =>
      obtain ⟨rfl, _⟩ := Prod.mk.inj (Option.some.inj hcut)
      exact cutAt?_self mark more
    next hnot =>
      obtain ⟨⟨inner, _⟩, hrest, heq⟩ := Option.map_eq_some_iff.mp hcut
      obtain ⟨rfl, rfl⟩ := Prod.mk.inj heq
      -- A mark that began here would lie within the text up to the mark that was found.
      have hlater : ¬ mark.isPrefixOf (char :: (inner ++ mark ++ more)) := by
        intro hprefix
        rw [List.isPrefixOf_iff_prefix] at hprefix hnot
        have hwithin : mark <+: char :: (inner ++ mark) := by
          refine List.prefix_of_prefix_length_le hprefix
            (List.prefix_append (char :: (inner ++ mark)) more) ?_
          simp only [List.length_cons, List.length_append]
          omega
        rw [cutAt?_eq_some hrest] at hnot
        exact hnot (hwithin.trans (List.prefix_append (char :: (inner ++ mark)) _))
      simp only [List.cons_append, cutAt?]
      rw [if_neg hlater, ih hrest]
      rfl

theorem cutTag_decided {quote? : Option Quote} {text content after : List Char}
    (hcut : cutTag quote? text = .ok (content, after)) (more : List Char) :
    cutTag quote? (content ++ '>' :: more) = .ok (content, more) := by
  induction text generalizing quote? content with
  | nil => cases quote? <;> cases hcut
  | cons char rest ih =>
    -- Whatever mark is open behind the character, the rest of the content decides the end.
    have hkeep : ∀ next : Option Quote,
        (cutTag next rest).map (prependToCut char) = .ok (content, after) →
          ∃ inner, content = char :: inner ∧
            (cutTag next (inner ++ '>' :: more)).map (prependToCut char) = .ok (content, more) := by
      intro next hnext
      cases hrest : cutTag next rest with
      | error fault => rw [hrest] at hnext; cases hnext
      | ok pair =>
        rw [hrest] at hnext
        obtain ⟨rfl, rfl⟩ := Prod.mk.inj (Except.ok.inj hnext)
        exact ⟨pair.1, rfl, by rw [ih hrest]; rfl⟩
    cases quote? with
    | none =>
      simp only [cutTag] at hcut
      split at hcut
      next =>
        obtain ⟨rfl, _⟩ := Prod.mk.inj (Except.ok.inj hcut)
        rfl
      next hopen =>
        obtain ⟨inner, rfl, hinner⟩ := hkeep _ hcut
        simp only [List.cons_append, cutTag, if_neg hopen, hinner]
    | some quote =>
      simp only [cutTag] at hcut
      obtain ⟨inner, rfl, hinner⟩ := hkeep _ hcut
      simp only [List.cons_append, cutTag, hinner]

/-- What is found behind the first characters is decided by these and what follows them. -/
theorem exists_start_of_drop {count : Nat} {text decided after : List Char}
    (hdrop : text.drop count = decided ++ after) (hne : decided ≠ []) :
    ∃ start, start.length = count ∧ text = start ++ decided ++ after := by
  refine ⟨text.take count, ?_, ?_⟩
  · have hlength := congrArg List.length hdrop
    have hpos := List.length_pos_iff.mpr hne
    simp only [List.length_drop, List.length_append] at hlength
    rw [List.length_take, Nat.min_eq_left (by omega)]
  · rw [List.append_assoc, ← hdrop, List.take_append_drop]

/-! ## Document types -/

/-- Characters after which a search goes on with what follows them, whatever that is. -/
def Skips (skip : List Char → Option (List Char)) (decided : List Char) : Prop :=
  ∀ more, skip (decided ++ more) = some more

theorem skips_cutAt? {mark text after : List Char}
    (hafter : (cutAt? mark text).map Prod.snd = some after) :
    ∃ decided, text = decided ++ after ∧ mark <:+ decided ∧
      Skips (fun rest => (cutAt? mark rest).map Prod.snd) decided := by
  obtain ⟨⟨before, _⟩, hcut, rfl⟩ := Option.map_eq_some_iff.mp hafter
  refine ⟨before ++ mark, cutAt?_eq_some hcut, List.suffix_append before mark, fun more => ?_⟩
  simp only [cutAt?_decided hcut more, Option.map_some]

/-- What follows a closing mark does not matter to a keyword without such a mark. -/
theorem beginsWith_congr {mark : String} (hmark : '>' ∉ mark.toList) {decided : List Char}
    (hclose : '>' ∈ decided) (first second : List Char) :
    beginsWith mark (decided ++ first) = beginsWith mark (decided ++ second) := by
  have hwithin (more : List Char) :
      beginsWith mark (decided ++ more) ↔ mark.toList <+: decided := by
    rw [beginsWith, List.isPrefixOf_iff_prefix]
    constructor
    · intro hprefix
      rcases List.prefix_or_prefix_of_prefix hprefix (List.prefix_append decided more) with
        hwithin | hbeyond
      · exact hwithin
      · exact absurd (hbeyond.subset hclose) hmark
    · exact fun hprefix => hprefix.trans (List.prefix_append decided more)
  rw [Bool.eq_iff_iff, hwithin, hwithin]

theorem holdsQuotedValues_congr {decided : List Char} (hclose : '>' ∈ decided)
    (first second : List Char) :
    holdsQuotedValues (decided ++ first) = holdsQuotedValues (decided ++ second) := by
  have hentity := beginsWith_congr (show '>' ∉ "!ENTITY".toList by decide) hclose first second
  have hlist := beginsWith_congr (show '>' ∉ "!ATTLIST".toList by decide) hclose first second
  have hnotation := beginsWith_congr (show '>' ∉ "!NOTATION".toList by decide) hclose first second
  rw [holdsQuotedValues, hentity, hlist, hnotation, holdsQuotedValues]

theorem skips_afterSubsetMarkup? {text after : List Char}
    (hafter : afterSubsetMarkup? text = some after) :
    ∃ decided, text = decided ++ after ∧ '>' ∈ decided ∧ Skips afterSubsetMarkup? decided := by
  -- Once the skipped characters are known, the keyword chooses the same case again.
  have hinstruction {decided : List Char} (hclose : '>' ∈ decided) (more : List Char) :=
    beginsWith_congr (show '>' ∉ "?".toList by decide) hclose more after
  have hcomment {decided : List Char} (hclose : '>' ∈ decided) (more : List Char) :=
    beginsWith_congr (show '>' ∉ "!--".toList by decide) hclose more after
  have hvalues {decided : List Char} (hclose : '>' ∈ decided) (more : List Char) :=
    holdsQuotedValues_congr hclose more after
  unfold afterSubsetMarkup? at hafter
  split at hafter
  next hkeyword =>
    obtain ⟨decided, hdrop, hmark, hskips⟩ := skips_cutAt? hafter
    have hclose : '>' ∈ decided := hmark.subset (by simp)
    obtain ⟨start, hlength, rfl⟩ := exists_start_of_drop hdrop (List.ne_nil_of_mem hclose)
    have hclose : '>' ∈ start ++ decided := List.mem_append_right _ hclose
    refine ⟨start ++ decided, rfl, hclose, fun more => ?_⟩
    rw [afterSubsetMarkup?, hinstruction hclose, if_pos hkeyword, List.append_assoc,
      List.drop_left' hlength]
    exact hskips more
  next hkeyword =>
    split at hafter
    next hdashes =>
      obtain ⟨decided, hdrop, hmark, hskips⟩ := skips_cutAt? hafter
      have hclose : '>' ∈ decided := hmark.subset (by simp)
      obtain ⟨start, hlength, rfl⟩ := exists_start_of_drop hdrop (List.ne_nil_of_mem hclose)
      have hclose : '>' ∈ start ++ decided := List.mem_append_right _ hclose
      refine ⟨start ++ decided, rfl, hclose, fun more => ?_⟩
      rw [afterSubsetMarkup?, hinstruction hclose, if_neg hkeyword, hcomment hclose,
        if_pos hdashes, List.append_assoc, List.drop_left' hlength]
      exact hskips more
    next hdashes =>
      split at hafter
      next hquoted =>
        split at hafter
        next content rest hcut =>
          obtain rfl := Option.some.inj hafter
          obtain rfl := cutTag_eq_ok hcut
          have hclose : '>' ∈ content ++ ['>'] := by simp
          refine ⟨content ++ ['>'], by simp, hclose, fun more => ?_⟩
          rw [List.append_cons content '>' rest] at hkeyword hdashes hquoted
          rw [afterSubsetMarkup?, hinstruction hclose, if_neg hkeyword, hcomment hclose,
            if_neg hdashes, hvalues hclose, if_pos hquoted, List.append_assoc,
            List.singleton_append, cutTag_decided hcut]
        next => cases hafter
      next hquoted =>
        obtain ⟨decided, rfl, hmark, hskips⟩ := skips_cutAt? hafter
        have hclose : '>' ∈ decided := hmark.subset (by simp)
        refine ⟨decided, rfl, hclose, fun more => ?_⟩
        rw [afterSubsetMarkup?, hinstruction hclose, if_neg hkeyword, hcomment hclose,
          if_neg hdashes, hvalues hclose, if_neg hquoted]
        exact hskips more

/-- The budget of the skipped characters is enough, whatever follows them. -/
theorem skips_afterSubset? {budget : Nat} {text after : List Char}
    (hafter : afterSubset? budget text = some after) :
    ∃ decided, text = decided ++ after ∧ '>' ∈ decided ∧
      ∀ enough, decided.length ≤ enough → Skips (afterSubset? enough) decided := by
  induction budget generalizing text with
  | zero => cases text <;> cases hafter
  | succ budget ih =>
    cases text with
    | nil => cases hafter
    | cons char rest =>
      simp only [afterSubset?] at hafter
      split at hafter
      next hend =>
        obtain ⟨decided, rfl, hmark, hskips⟩ := skips_cutAt? hafter
        have hclose : '>' ∈ decided := hmark.subset (by simp)
        refine ⟨char :: decided, rfl, List.mem_cons_of_mem _ hclose, fun enough henough more => ?_⟩
        obtain ⟨enough, rfl⟩ := Nat.exists_eq_add_one_of_ne_zero (by
          simp only [List.length_cons] at henough; omega : enough ≠ 0)
        rw [List.cons_append, afterSubset?, if_pos hend]
        exact hskips more
      next hend =>
        split at hafter
        next hmarkup =>
          obtain ⟨inner, hinner, hlater⟩ := Option.bind_eq_some_iff.mp hafter
          obtain ⟨first, rfl, _, hfirst⟩ := skips_afterSubsetMarkup? hinner
          obtain ⟨second, rfl, hclose, hsecond⟩ := ih hlater
          refine ⟨char :: (first ++ second), by simp, by simp [hclose],
            fun enough henough more => ?_⟩
          simp only [List.length_cons, List.length_append] at henough
          obtain ⟨enough, rfl⟩ := Nat.exists_eq_add_one_of_ne_zero (by omega : enough ≠ 0)
          rw [List.cons_append, afterSubset?, if_neg hend, if_pos hmarkup, List.append_assoc,
            hfirst, Option.bind_some, hsecond enough (by omega)]
        next hmarkup =>
          obtain ⟨decided, rfl, hclose, hskips⟩ := ih hafter
          refine ⟨char :: decided, rfl, List.mem_cons_of_mem _ hclose,
            fun enough henough more => ?_⟩
          simp only [List.length_cons] at henough
          obtain ⟨enough, rfl⟩ := Nat.exists_eq_add_one_of_ne_zero (by omega : enough ≠ 0)
          rw [List.cons_append, afterSubset?, if_neg hend, if_neg hmarkup,
            hskips enough (by omega)]

theorem skips_afterDoctype? {quote? : Option Quote} {text after : List Char}
    (hafter : afterDoctype? quote? text = some after) :
    ∃ decided, text = decided ++ after ∧ '>' ∈ decided ∧ Skips (afterDoctype? quote?) decided := by
  induction text generalizing quote? with
  | nil => cases hafter
  | cons char rest ih =>
    have hkeep {next : Option Quote} (hnext : afterDoctype? next rest = some after)
        (hsame : ∀ later, afterDoctype? quote? (char :: later) = afterDoctype? next later) :
        ∃ decided, char :: rest = decided ++ after ∧ '>' ∈ decided ∧
          Skips (afterDoctype? quote?) decided := by
      obtain ⟨decided, rfl, hclose, hskips⟩ := ih hnext
      refine ⟨char :: decided, rfl, List.mem_cons_of_mem _ hclose, fun more => ?_⟩
      rw [List.cons_append, hsame, hskips]
    cases quote? with
    | none =>
      simp only [afterDoctype?] at hafter
      split at hafter
      next hclose =>
        obtain rfl := Option.some.inj hafter
        refine ⟨[char], rfl, by simp [hclose], fun more => ?_⟩
        rw [List.singleton_append, afterDoctype?, if_pos hclose]
      next hclose =>
        split at hafter
        next hsubset =>
          obtain ⟨decided, rfl, hmem, hskips⟩ := skips_afterSubset? hafter
          refine ⟨char :: decided, rfl, List.mem_cons_of_mem _ hmem, fun more => ?_⟩
          rw [List.cons_append, afterDoctype?, if_neg hclose, if_pos hsubset]
          exact hskips _ (by simp) more
        next hsubset =>
          exact hkeep hafter fun later => by rw [afterDoctype?, if_neg hclose, if_neg hsubset]
    | some quote =>
      simp only [afterDoctype?] at hafter
      exact hkeep hafter fun later => by rw [afterDoctype?]

/-! ## Constructs -/

/-- Characters that are read as a lexeme, whatever follows them. -/
def Yields (scan : List Char → Except Fault (Lexeme × List Char)) (decided : List Char)
    (lexeme : Lexeme) : Prop :=
  ∀ more, scan (decided ++ more) = .ok (lexeme, more)

section

variable {text after : List Char} {lexeme : Lexeme}

theorem scanDoctype_yields (hscan : scanDoctype text = .ok (lexeme, after)) :
    ∃ decided, text = decided ++ after ∧ decided ≠ [] ∧ Yields scanDoctype decided lexeme := by
  simp only [scanDoctype] at hscan
  split at hscan
  next => cases hscan
  next hkeyword =>
    split at hscan
    next => cases hscan
    next hafter =>
      split at hscan
      next => cases hscan
      next hname =>
        obtain ⟨rfl, rfl⟩ := Prod.mk.inj (Except.ok.inj hscan)
        obtain ⟨decided, hdrop, hclose, hskips⟩ := skips_afterDoctype? hafter
        have hne := List.ne_nil_of_mem hclose
        obtain ⟨start, hlength, rfl⟩ := exists_start_of_drop hdrop hne
        refine ⟨start ++ decided, rfl, List.append_ne_nil_of_right_ne_nil start hne, fun more => ?_⟩
        -- The first character that is not blank is one of those up to the closing bracket.
        have hhead (later : List Char) : ((decided ++ later).dropWhile isSpace).head? =
            (decided.dropWhile isSpace).head? := by
          have hword : decided.dropWhile isSpace ≠ [] := fun hnil =>
            absurd (List.dropWhile_eq_nil_iff.mp hnil '>' hclose) (by decide)
          rw [List.dropWhile_append, if_neg (by simpa using hword),
            List.head?_append_of_ne_nil _ hword]
        rw [List.append_assoc, List.take_left' hlength] at hkeyword
        rw [hdrop, hhead] at hname
        simp only [scanDoctype, List.append_assoc, List.take_left' hlength,
          List.drop_left' hlength, hhead]
        rw [if_neg hkeyword, hskips]
        simp only [if_neg hname]

theorem scanDeclaration_yields (hscan : scanDeclaration text = .ok (lexeme, after)) :
    ∃ decided, text = decided ++ after ∧ Yields scanDeclaration decided lexeme := by
  have hdoctype {first : Char} {rest : List Char}
      (hsame : ∀ later, scanDeclaration (first :: later) = scanDoctype (first :: later))
      (hfound : scanDoctype (first :: rest) = .ok (lexeme, after)) :
      ∃ decided, first :: rest = decided ++ after ∧ Yields scanDeclaration decided lexeme := by
    obtain ⟨decided, heq, hne, hyields⟩ := scanDoctype_yields hfound
    obtain ⟨head, tail, rfl⟩ := List.exists_cons_of_ne_nil hne
    obtain ⟨rfl, rfl⟩ := List.cons.inj heq
    refine ⟨first :: tail, rfl, fun more => ?_⟩
    rw [List.cons_append, hsame]
    exact hyields more
  unfold scanDeclaration at hscan
  split at hscan
  next rest =>
    split at hscan
    next => cases hscan
    next hdash =>
      split at hscan
      next before _ hcut =>
        obtain ⟨rfl, rfl⟩ := Prod.mk.inj (Except.ok.inj hscan)
        obtain ⟨start, hlength, rfl⟩ := exists_start_of_drop (cutAt?_eq_some hcut) (by simp)
        obtain ⟨second, rfl⟩ := List.length_eq_one_iff.mp hlength
        refine ⟨'-' :: second :: (before ++ ['-', '-', '>']), by simp, fun more => ?_⟩
        have hsecond : second = '-' := by simpa using hdash
        simp only [List.cons_append, scanDeclaration, hsecond, List.head?_cons, bne_self_eq_false,
          Bool.false_eq_true, if_false, List.drop_succ_cons, List.drop_zero,
          cutAt?_decided hcut more]
      next => cases hscan
  next rest =>
    split at hscan
    next => cases hscan
    next hkeyword =>
      split at hscan
      next before _ hcut =>
        obtain ⟨rfl, rfl⟩ := Prod.mk.inj (Except.ok.inj hscan)
        obtain ⟨start, hlength, rfl⟩ := exists_start_of_drop (cutAt?_eq_some hcut) (by simp)
        refine ⟨'[' :: (start ++ (before ++ [']', ']', '>'])), by simp, fun more => ?_⟩
        have hkeep : beginsWith "CDATA[" (start ++ (before ++ [']', ']', '>'] ++ more)) := by
          have hclose : '>' ∈ start ++ (before ++ [']', ']', '>']) := by simp
          rw [← List.append_assoc start, beginsWith_congr (by decide) hclose more _]
          simpa using hkeyword
        simp only [List.cons_append, scanDeclaration, hkeep, Bool.not_true, Bool.false_eq_true,
          if_false, List.append_assoc start, List.drop_left' hlength, cutAt?_decided hcut more]
      next => cases hscan
  next rest => exact hdoctype (fun _ => rfl) hscan
  next rest => exact hdoctype (fun _ => rfl) hscan
  next => cases hscan

theorem scanInstruction_yields (hscan : scanInstruction text = .ok (lexeme, after)) :
    ∃ decided, text = decided ++ after ∧ Yields scanInstruction decided lexeme := by
  unfold scanInstruction at hscan
  split at hscan
  next => cases hscan
  next hhead =>
    split at hscan
    next before _ hcut =>
      obtain ⟨rfl, rfl⟩ := Prod.mk.inj (Except.ok.inj hscan)
      have hne : before ++ ['?', '>'] ≠ [] := by simp
      refine ⟨before ++ ['?', '>'], cutAt?_eq_some hcut, fun more => ?_⟩
      rw [cutAt?_eq_some hcut, List.head?_append_of_ne_nil _ hne] at hhead
      rw [scanInstruction, List.head?_append_of_ne_nil _ hne, if_neg hhead, cutAt?_decided hcut]
    next => cases hscan

theorem map_cutTag_yields {wrap : List Char → Lexeme}
    (hscan : (cutTag none text).map (fun cut => (wrap cut.1, cut.2)) = .ok (lexeme, after)) :
    ∃ content, text = content ++ '>' :: after ∧ ∀ more,
      (cutTag none (content ++ '>' :: more)).map (fun cut => (wrap cut.1, cut.2)) =
        .ok (lexeme, more) := by
  cases hcut : cutTag none text with
  | error fault => rw [hcut] at hscan; cases hscan
  | ok pair =>
    rw [hcut] at hscan
    obtain ⟨rfl, rfl⟩ := Prod.mk.inj (Except.ok.inj hscan)
    refine ⟨pair.1, cutTag_eq_ok hcut, fun more => ?_⟩
    rw [cutTag_decided hcut]
    rfl

theorem scanMarkup_yields (hscan : scanMarkup text = .ok (lexeme, after)) :
    ∃ decided, text = decided ++ after ∧ Yields scanMarkup decided lexeme := by
  unfold scanMarkup at hscan
  split at hscan
  next =>
    obtain ⟨decided, rfl, hyields⟩ := scanDeclaration_yields hscan
    exact ⟨'!' :: decided, rfl, hyields⟩
  next =>
    obtain ⟨decided, rfl, hyields⟩ := scanInstruction_yields hscan
    exact ⟨'?' :: decided, rfl, hyields⟩
  next =>
    obtain ⟨content, rfl, hyields⟩ := map_cutTag_yields hscan
    refine ⟨'/' :: content ++ ['>'], by simp, fun more => ?_⟩
    rw [List.append_assoc]
    exact hyields more
  next hdeclaration hinstruction hend =>
    obtain ⟨content, rfl, hyields⟩ := map_cutTag_yields hscan
    refine ⟨content ++ ['>'], by simp, fun more => ?_⟩
    rw [List.append_assoc, List.singleton_append]
    -- The first character is that of the text, so the construct is of the same kind.
    have hhead {mark : Char} {rest : List Char} (hmark : mark ≠ '>')
        (heq : content ++ '>' :: more = mark :: rest) :
        ∃ tail, content ++ '>' :: after = mark :: tail := by
      cases content with
      | nil => exact absurd (List.cons.inj heq).1.symm hmark
      | cons first tail => exact ⟨_, by rw [(List.cons.inj heq).1.symm, List.cons_append]⟩
    unfold scanMarkup
    split
    next heq => exact absurd (hhead (by decide) heq) fun ⟨_, hsame⟩ => hdeclaration _ hsame
    next heq => exact absurd (hhead (by decide) heq) fun ⟨_, hsame⟩ => hinstruction _ hsame
    next heq => exact absurd (hhead (by decide) heq) fun ⟨_, hsame⟩ => hend _ hsame
    next => exact hyields more

theorem scanReference_yields (hscan : scanReference text = .ok (lexeme, after)) :
    ∃ decided, text = decided ++ after ∧ Yields scanReference decided lexeme := by
  simp only [scanReference] at hscan
  generalize hinside : (fun char : Char => char != ';' && char != '&' && char != '<') = inside
    at hscan
  split at hscan
  next rest hdrop =>
    obtain ⟨rfl, rfl⟩ := Prod.mk.inj (Except.ok.inj hscan)
    refine ⟨text.takeWhile inside ++ [';'], ?_, fun more => ?_⟩
    · rw [List.append_assoc, List.singleton_append, ← hdrop, List.takeWhile_append_dropWhile]
    · have hname : ∀ char ∈ text.takeWhile inside, inside char := fun _ => List.mem_takeWhile_imp
      have hend : ¬ inside ';' = true := by simp [← hinside]
      simp only [scanReference, hinside, List.append_assoc, List.singleton_append,
        List.takeWhile_append_of_pos hname, List.dropWhile_append_of_pos hname,
        List.takeWhile_cons_of_neg hend, List.dropWhile_cons_of_neg hend, List.append_nil]
  next => cases hscan

theorem scanLexeme_yields {char : Char} (hmarkup : isPlain char = false)
    (hscan : scanLexeme char text = .ok (lexeme, after)) :
    ∃ decided, text = decided ++ after ∧ Yields (scanLexeme char) decided lexeme := by
  unfold scanLexeme at hscan
  split at hscan
  next htag =>
    obtain ⟨decided, heq, hyields⟩ := scanMarkup_yields hscan
    refine ⟨decided, heq, fun more => ?_⟩
    rw [scanLexeme, if_pos htag, hyields]
  next htag =>
    split at hscan
    next hreference =>
      obtain ⟨decided, heq, hyields⟩ := scanReference_yields hscan
      refine ⟨decided, heq, fun more => ?_⟩
      rw [scanLexeme, if_neg htag, if_pos hreference, hyields]
    next hreference => simp [isPlain, htag, hreference] at hmarkup

end

/-! ## Whole texts -/

/-- Plain text goes on for as long as it can. -/
theorem lex_of_plain {run : List Char} (hrun : ∀ char ∈ run, isPlain char) (hne : run ≠ [])
    (more : List Char) :
    lex (run ++ more) =
      ⟨.text (run ++ more.takeWhile isPlain) :: (lex (more.dropWhile isPlain)).lexemes,
        (lex (more.dropWhile isPlain)).fault?⟩ := by
  obtain ⟨char, rest, rfl⟩ := List.exists_cons_of_ne_nil hne
  rw [List.forall_mem_cons] at hrun
  have hchar : char ≠ '<' ∧ char ≠ '&' := by simpa [isPlain] using hrun.1
  have hscan : scanLexeme char (rest ++ more) =
      .ok (.text (char :: rest ++ more.takeWhile isPlain), more.dropWhile isPlain) := by
    rw [scanLexeme, if_neg hchar.1, if_neg hchar.2, List.takeWhile_append_of_pos hrun.2,
      List.dropWhile_append_of_pos hrun.2]
    rfl
  exact lex_of_scan_ok hscan

/-- A text whose lexemes are the first ones of every text that begins with it. -/
def IsClosed (text : List Char) : Prop :=
  ∀ more, lex (text ++ more) = ⟨(lex text).lexemes ++ (lex more).lexemes, (lex more).fault?⟩

theorem IsClosed.nil : IsClosed [] := fun _ => rfl

theorem IsClosed.fault?_eq_none {text : List Char} (hclosed : IsClosed text) :
    (lex text).fault? = none := by
  have hself := hclosed []
  rw [List.append_nil] at hself
  rw [hself]
  rfl

theorem IsClosed.lexeme {char : Char} {decided text : List Char} {lexeme : Lexeme}
    (hyields : Yields (scanLexeme char) decided lexeme) (hclosed : IsClosed text) :
    IsClosed (char :: (decided ++ text)) := by
  have hlex (later : List Char) : lex (char :: (decided ++ later)) =
      ⟨lexeme :: (lex later).lexemes, (lex later).fault?⟩ := lex_of_scan_ok (hyields later)
  intro more
  rw [List.cons_append, List.append_assoc, hlex, hlex, hclosed]
  rfl

/-- Plain text before other constructs ends where these begin. -/
theorem IsClosed.plain {run text : List Char} {char : Char} (hrun : ∀ char ∈ run, isPlain char)
    (hne : run ≠ []) (hmarkup : isPlain char = false) (hclosed : IsClosed (char :: text)) :
    IsClosed (run ++ char :: text) := by
  have hlex (later : List Char) : lex (run ++ char :: later) =
      ⟨.text run :: (lex (char :: later)).lexemes, (lex (char :: later)).fault?⟩ := by
    have hstop : ¬ isPlain char = true := by simp [hmarkup]
    rw [lex_of_plain hrun hne, List.takeWhile_cons_of_neg hstop, List.dropWhile_cons_of_neg hstop,
      List.append_nil]
  intro more
  rw [List.append_assoc, List.cons_append, hlex, hlex, ← List.cons_append, hclosed]
  rfl

/-- A text without fault is closed up to the plain text at its end. -/
theorem exists_closed {text : List Char} (hfault : (lex text).fault? = none) :
    ∃ closed run, text = closed ++ run ∧ IsClosed closed ∧ ∀ char ∈ run, isPlain char := by
  -- The induction is on the length, since a step leaves the text behind a whole lexeme.
  induction hlength : text.length using Nat.strongRecOn generalizing text with
  | _ length ih =>
    cases text with
    | nil => exact ⟨[], [], rfl, IsClosed.nil, nofun⟩
    | cons char rest =>
      cases hscan : scanLexeme char rest with
      | error fault => rw [lex_of_scan_error hscan] at hfault; cases hfault
      | ok pair =>
        obtain ⟨lexeme, after⟩ := pair
        rw [lex_of_scan_ok hscan] at hfault
        have hshorter : after.length < length := by
          have := scanLexeme_length hscan
          rw [← hlength, List.length_cons]
          omega
        obtain ⟨closed, run, hafter, hclosed, hrun⟩ := ih after.length hshorter hfault rfl
        by_cases hchar : isPlain char
        · have hplain : ∀ other ∈ char :: rest.takeWhile isPlain, isPlain other :=
            List.forall_mem_cons.mpr ⟨hchar, fun _ => List.mem_takeWhile_imp⟩
          have hdrop : after = rest.dropWhile isPlain := by
            have hne : char ≠ '<' ∧ char ≠ '&' := by simpa [isPlain] using hchar
            rw [scanLexeme, if_neg hne.1, if_neg hne.2] at hscan
            exact (Prod.mk.inj (Except.ok.inj hscan)).2.symm
          have htext : char :: rest = (char :: rest.takeWhile isPlain) ++ (closed ++ run) := by
            rw [← hafter, hdrop, List.cons_append, List.takeWhile_append_dropWhile]
          cases closed with
          | nil =>
            refine ⟨[], char :: rest.takeWhile isPlain ++ run, by simpa using htext, IsClosed.nil, ?_⟩
            exact fun other hother => (List.mem_append.mp hother).elim (hplain other) (hrun other)
          | cons first tail =>
            have hfirst : isPlain first = false := by
              have hhead := List.head?_dropWhile_not isPlain rest
              rw [← hdrop, hafter] at hhead
              simpa using hhead
            refine ⟨char :: rest.takeWhile isPlain ++ first :: tail, run, ?_,
              hclosed.plain hplain (List.cons_ne_nil _ _) hfirst, hrun⟩
            rw [htext, List.append_assoc]
        · obtain ⟨decided, hrest, hyields⟩ :=
            scanLexeme_yields (Bool.not_eq_true _ ▸ hchar) hscan
          refine ⟨char :: (decided ++ closed), run, ?_, hclosed.lexeme hyields, hrun⟩
          rw [hrest, hafter, List.cons_append, List.append_assoc]

/-- A text without fault is closed where markup follows. -/
theorem lex_append_of_markup {text : List Char} (hfault : (lex text).fault? = none) {char : Char}
    (hmarkup : isPlain char = false) (more : List Char) :
    lex (text ++ char :: more) =
      ⟨(lex text).lexemes ++ (lex (char :: more)).lexemes, (lex (char :: more)).fault?⟩ := by
  obtain ⟨closed, run, rfl, hclosed, hrun⟩ := exists_closed hfault
  by_cases hne : run = []
  · rw [hne, List.append_nil, hclosed]
  · have hstop : ¬ isPlain char = true := by simp [hmarkup]
    have hend : lex run = ⟨[.text run], none⟩ := by simpa using lex_of_plain hrun hne []
    rw [List.append_assoc, hclosed, hclosed run, hend, lex_of_plain hrun hne,
      List.takeWhile_cons_of_neg hstop, List.dropWhile_cons_of_neg hstop, List.append_nil,
      List.append_assoc, List.singleton_append]

end PrefAccessors.Markup
