import PrefAccessors.Markup.Lexeme

/-! # Lexing proceeds

Each scan leaves a text that is no longer than the one after the first character
of its lexeme. A budget of one step for each character is therefore enough to
read a whole text, and `lex` can be unfolded lexeme by lexeme without a budget.
-/

namespace PrefAccessors.Markup

/-- Nothing is lost where a tag ends. -/
theorem cutTag_eq_ok {quote? : Option Quote} {text content after : List Char}
    (hcut : cutTag quote? text = .ok (content, after)) : text = content ++ '>' :: after := by
  induction text generalizing quote? content with
  | nil => cases quote? <;> simp [cutTag] at hcut
  | cons char rest ih =>
    -- Whatever mark is open behind the character, the cut keeps it in front.
    have hkeep : ∀ next : Option Quote,
        (cutTag next rest).map (prependToCut char) = .ok (content, after) →
          char :: rest = content ++ '>' :: after := by
      intro next hnext
      cases hrest : cutTag next rest with
      | error fault => simp [hrest, Except.map] at hnext
      | ok pair =>
        obtain ⟨inner, outer⟩ := pair
        simp only [hrest, Except.map, prependToCut, Except.ok.injEq, Prod.mk.injEq] at hnext
        obtain ⟨rfl, rfl⟩ := hnext
        simp [ih hrest]
    cases quote? with
    | none =>
      simp only [cutTag] at hcut
      split at hcut
      next hclose =>
        obtain ⟨rfl, rfl⟩ := Prod.mk.inj (Except.ok.inj hcut)
        simp [hclose]
      next => exact hkeep _ hcut
    | some quote =>
      simp only [cutTag] at hcut
      exact hkeep _ hcut

theorem cutTag_length {quote? : Option Quote} {text content after : List Char}
    (hcut : cutTag quote? text = .ok (content, after)) : after.length < text.length := by
  simp [cutTag_eq_ok hcut]
  omega

theorem map_cutTag_length {text after : List Char} {lexeme : Lexeme} {wrap : List Char → Lexeme}
    (hscan : (cutTag none text).map (fun cut => (wrap cut.1, cut.2)) = .ok (lexeme, after)) :
    after.length < text.length := by
  cases hcut : cutTag none text with
  | error fault => simp [hcut, Except.map] at hscan
  | ok pair =>
    simp only [hcut, Except.map, Except.ok.injEq, Prod.mk.injEq] at hscan
    obtain ⟨_, rfl⟩ := hscan
    exact cutTag_length hcut

theorem map_cutAt?_length {mark text after : List Char}
    (hcut : (cutAt? mark text).map Prod.snd = some after) : after.length ≤ text.length := by
  obtain ⟨pair, hpair, rfl⟩ := Option.map_eq_some_iff.mp hcut
  exact cutAt?_length hpair

/-! ## Document types -/

theorem afterSubsetMarkup?_length {text after : List Char}
    (hafter : afterSubsetMarkup? text = some after) : after.length ≤ text.length := by
  unfold afterSubsetMarkup? at hafter
  split at hafter
  next => exact Nat.le_trans (map_cutAt?_length hafter) (by simp)
  next =>
    split at hafter
    next => exact Nat.le_trans (map_cutAt?_length hafter) (by simp)
    next =>
      split at hafter
      next =>
        split at hafter
        next hcut =>
          obtain rfl := Option.some.inj hafter
          exact Nat.le_of_lt (cutTag_length hcut)
        next => simp at hafter
      next => exact map_cutAt?_length hafter

theorem afterSubset?_length {budget : Nat} {text after : List Char}
    (hafter : afterSubset? budget text = some after) : after.length ≤ text.length := by
  induction budget generalizing text with
  | zero => cases text <;> simp [afterSubset?] at hafter
  | succ budget ih =>
    cases text with
    | nil => simp [afterSubset?] at hafter
    | cons char rest =>
      simp only [afterSubset?] at hafter
      simp only [List.length_cons]
      split at hafter
      next => exact Nat.le_trans (map_cutAt?_length hafter) (Nat.le_succ _)
      next =>
        split at hafter
        next =>
          obtain ⟨inner, hinner, hrest⟩ := Option.bind_eq_some_iff.mp hafter
          have := afterSubsetMarkup?_length hinner
          have := ih hrest
          omega
        next => exact Nat.le_trans (ih hafter) (Nat.le_succ _)

theorem afterDoctype?_length {quote? : Option Quote} {text after : List Char}
    (hafter : afterDoctype? quote? text = some after) : after.length ≤ text.length := by
  induction text generalizing quote? with
  | nil => simp [afterDoctype?] at hafter
  | cons char rest ih =>
    simp only [List.length_cons]
    cases quote? with
    | none =>
      simp only [afterDoctype?] at hafter
      split at hafter
      next => simp_all
      next =>
        split at hafter
        next => exact Nat.le_trans (afterSubset?_length hafter) (Nat.le_succ _)
        next => exact Nat.le_trans (ih hafter) (Nat.le_succ _)
    | some quote =>
      simp only [afterDoctype?] at hafter
      exact Nat.le_trans (ih hafter) (Nat.le_succ _)

/-! ## Constructs -/

theorem scanDoctype_length {text after : List Char} {lexeme : Lexeme}
    (hscan : scanDoctype text = .ok (lexeme, after)) : after.length ≤ text.length := by
  simp only [scanDoctype] at hscan
  split at hscan
  next => simp at hscan
  next =>
    split at hscan
    next => simp at hscan
    next hafter =>
      split at hscan
      next => simp at hscan
      next =>
        obtain ⟨_, rfl⟩ := Prod.mk.inj (Except.ok.inj hscan)
        exact Nat.le_trans (afterDoctype?_length hafter) (by simp)

theorem scanDeclaration_length {text after : List Char} {lexeme : Lexeme}
    (hscan : scanDeclaration text = .ok (lexeme, after)) : after.length ≤ text.length := by
  have hskip : ∀ {mark rest before : List Char} {first : Char} {count : Nat},
      cutAt? mark (rest.drop count) = some (before, after) →
        after.length ≤ (first :: rest).length := by
    intro mark rest before first count hcut
    have := cutAt?_length hcut
    simp at this ⊢
    omega
  unfold scanDeclaration at hscan
  split at hscan
  next =>
    split at hscan
    next => simp at hscan
    next =>
      split at hscan
      next hcut =>
        obtain ⟨_, rfl⟩ := Prod.mk.inj (Except.ok.inj hscan)
        exact hskip hcut
      next => simp at hscan
  next =>
    split at hscan
    next => simp at hscan
    next =>
      split at hscan
      next hcut =>
        obtain ⟨_, rfl⟩ := Prod.mk.inj (Except.ok.inj hscan)
        exact hskip hcut
      next => simp at hscan
  next => exact scanDoctype_length hscan
  next => exact scanDoctype_length hscan
  next => simp at hscan

theorem scanInstruction_length {text after : List Char} {lexeme : Lexeme}
    (hscan : scanInstruction text = .ok (lexeme, after)) : after.length ≤ text.length := by
  unfold scanInstruction at hscan
  split at hscan
  next => simp at hscan
  next =>
    split at hscan
    next hcut =>
      obtain ⟨_, rfl⟩ := Prod.mk.inj (Except.ok.inj hscan)
      exact cutAt?_length hcut
    next => simp at hscan

theorem scanMarkup_length {text after : List Char} {lexeme : Lexeme}
    (hscan : scanMarkup text = .ok (lexeme, after)) : after.length ≤ text.length := by
  unfold scanMarkup at hscan
  split at hscan
  next => exact Nat.le_trans (scanDeclaration_length hscan) (by simp)
  next => exact Nat.le_trans (scanInstruction_length hscan) (by simp)
  next => exact Nat.le_trans (Nat.le_of_lt (map_cutTag_length hscan)) (by simp)
  next => exact Nat.le_of_lt (map_cutTag_length hscan)

theorem scanReference_length {text after : List Char} {lexeme : Lexeme}
    (hscan : scanReference text = .ok (lexeme, after)) : after.length ≤ text.length := by
  simp only [scanReference] at hscan
  split at hscan
  next rest hdrop =>
    obtain ⟨_, rfl⟩ := Prod.mk.inj (Except.ok.inj hscan)
    have hbehind : (';' :: rest).Sublist text := hdrop ▸ List.dropWhile_sublist _
    exact (List.sublist_of_cons_sublist hbehind).length_le
  next => simp at hscan

theorem scanLexeme_length {char : Char} {rest after : List Char} {lexeme : Lexeme}
    (hscan : scanLexeme char rest = .ok (lexeme, after)) : after.length ≤ rest.length := by
  unfold scanLexeme at hscan
  split at hscan
  next => exact scanMarkup_length hscan
  next =>
    split at hscan
    next => exact scanReference_length hscan
    next =>
      obtain ⟨_, rfl⟩ := Prod.mk.inj (Except.ok.inj hscan)
      exact (List.dropWhile_sublist _).length_le

/-! ## Whole texts -/

/-- Two budgets that both suffice give the same lexemes. -/
theorem lexWithin_congr {first second : Nat} {text : List Char}
    (hfirst : text.length ≤ first) (hsecond : text.length ≤ second) :
    lexWithin first text = lexWithin second text := by
  -- The text is general too: a step leaves the text behind a whole lexeme.
  induction first generalizing second text with
  | zero =>
    obtain rfl := List.length_eq_zero_iff.mp (Nat.le_zero.mp hfirst)
    cases second <;> rfl
  | succ first ih =>
    cases text with
    | nil => cases second <;> rfl
    | cons char rest =>
      simp only [List.length_cons] at hfirst hsecond
      obtain ⟨second, rfl⟩ := Nat.exists_eq_add_one_of_ne_zero (by omega : second ≠ 0)
      simp only [lexWithin]
      cases hscan : scanLexeme char rest with
      | error fault => rfl
      | ok pair =>
        obtain ⟨lexeme, after⟩ := pair
        have := scanLexeme_length hscan
        simp only [ih (by omega : after.length ≤ first) (by omega : after.length ≤ second)]

@[simp]
theorem lex_nil : lex [] = ⟨[], none⟩ := rfl

/-- A text begins with its first lexeme. -/
theorem lex_of_scan_ok {char : Char} {rest after : List Char} {lexeme : Lexeme}
    (hscan : scanLexeme char rest = .ok (lexeme, after)) :
    lex (char :: rest) = ⟨lexeme :: (lex after).lexemes, (lex after).fault?⟩ := by
  have hafter : lexWithin rest.length after = lex after :=
    lexWithin_congr (scanLexeme_length hscan) (Nat.le_refl _)
  simp [lex, lexWithin, hscan, hafter]

/-- A text that begins with a faulty construct has no lexemes. -/
theorem lex_of_scan_error {char : Char} {rest : List Char} {fault : Fault}
    (hscan : scanLexeme char rest = .error fault) : lex (char :: rest) = ⟨[], some fault⟩ := by
  simp [lex, lexWithin, hscan]

end PrefAccessors.Markup
