import PrefAccessors.Proofs.Identifiers

/-! # Capital letters

What the mapping to upper case makes of the characters with which an identifier can
begin. The runs of the mapping lead to alphabetic characters. The longer images begin
with such a character too, but some go on with a combining mark, which no identifier
may hold. The tables are searched by stretches of code points, so each run of the
mapping is decided by its ends and not character by character.
-/

namespace PrefAccessors.Text

open List

/-! ## Stretches of code points -/

/-- The stretches of a set: a first code point inside, and the next one that is outside. -/
def stretches : List Nat → List (Nat × Nat)
  | first :: stop :: rest => (first, stop) :: stretches rest
  | _ => []

theorem mem_boundaries_of_mem_stretches {boundaries : List Nat} {stretch : Nat × Nat}
    (hmem : stretch ∈ stretches boundaries) : stretch.1 ∈ boundaries := by
  induction boundaries using stretches.induct with
  | case1 first stop rest ih =>
    rcases List.mem_cons.mp hmem with rfl | hrest
    · exact List.mem_cons_self
    · exact List.mem_cons_of_mem _ (List.mem_cons_of_mem _ (ih hrest))
  | case2 boundaries hshort =>
    rw [stretches] at hmem
    · cases hmem
    · exact hshort

/-- A code point that lies in a stretch of a set lies in the set. -/
theorem oddBelow_of_mem_stretches {boundaries : List Nat}
    (hsorted : boundaries.Pairwise (· < ·)) {stretch : Nat × Nat}
    (hmem : stretch ∈ stretches boundaries) {point : Nat} (hfirst : stretch.1 ≤ point)
    (hstop : point < stretch.2) : oddBelow boundaries point = true := by
  induction boundaries using stretches.induct with
  | case1 first stop rest ih =>
    have hordered := List.pairwise_cons.mp hsorted
    have hlater := List.pairwise_cons.mp hordered.2
    rcases List.mem_cons.mp hmem with rfl | hrest
    · simp [oddBelow, Nat.not_lt.mpr hfirst, hstop]
    · -- The stretch comes after both boundaries, which therefore both count.
      have hbelow := hlater.1 _ (mem_boundaries_of_mem_stretches hrest)
      have habove := hordered.1 stop List.mem_cons_self
      have hpast : ¬ point < first ∧ ¬ point < stop := by omega
      simp [oddBelow, hpast, ih hlater.2 hrest]
  | case2 boundaries hshort =>
    rw [stretches] at hmem
    · cases hmem
    · exact hshort

/-- The stretches of alphabetic characters to which the mapping to upper case leads. -/
def capitalStretches : List (Nat × Nat) := [
  (0x41, 0x5B), (0xC0, 0xD7), (0xD8, 0xF7), (0xF8, 0x2C2), (0x363, 0x375), (0x376, 0x378),
  (0x37F, 0x380), (0x386, 0x387), (0x388, 0x38B), (0x38C, 0x38D), (0x38E, 0x3A2), (0x3A3, 0x3F6),
  (0x3F7, 0x482), (0x48A, 0x530), (0x531, 0x557), (0x10A0, 0x10C6), (0x10C7, 0x10C8),
  (0x10CD, 0x10CE), (0x13A0, 0x13F6), (0x1C80, 0x1C8B), (0x1C90, 0x1CBB), (0x1CBD, 0x1CC0),
  (0x1E00, 0x1F16), (0x1F18, 0x1F1E), (0x1F20, 0x1F46), (0x1F48, 0x1F4E), (0x1F59, 0x1F5A),
  (0x1F5B, 0x1F5C), (0x1F5D, 0x1F5E), (0x1F5F, 0x1F7E), (0x1FB6, 0x1FBD), (0x1FC6, 0x1FCD),
  (0x1FD6, 0x1FDC), (0x1FE0, 0x1FED), (0x1FF6, 0x1FFD), (0x212F, 0x213A), (0x2160, 0x2189),
  (0x24B6, 0x24EA), (0x2C00, 0x2CE5), (0x2CEB, 0x2CEF), (0x2CF2, 0x2CF4), (0xA640, 0xA66F),
  (0xA67F, 0xA6F0), (0xA722, 0xA789), (0xA78B, 0xA7DD), (0xA7F1, 0xA806), (0xFF21, 0xFF3B),
  (0x10400, 0x1049E), (0x104B0, 0x104D4), (0x10570, 0x1057B), (0x1057C, 0x1058B),
  (0x1058C, 0x10593), (0x10594, 0x10596), (0x10C80, 0x10CB3), (0x10D4A, 0x10D66),
  (0x118A0, 0x118E0), (0x16E40, 0x16E80), (0x16EA0, 0x16EB9), (0x1E900, 0x1E944)]

theorem alphabetic_sorted : alphabeticSet.boundaries.Pairwise (· < ·) :=
  List.isChain_iff_pairwise.mp (by decide +kernel)

theorem capitalStretches_sublist : capitalStretches <+ stretches alphabeticSet.boundaries :=
  List.isSublist_iff_sublist.mp (by decide +kernel)

/-- No stretch has a surrogate or goes past the last code point. -/
theorem isValidChar_of_mem_capitalStretches {stretch : Nat × Nat}
    (hmem : stretch ∈ capitalStretches) {point : Nat} (hfirst : stretch.1 ≤ point)
    (hstop : point < stretch.2) : point.isValidChar := by
  have hends : ∀ stretch ∈ capitalStretches,
      stretch.2 ≤ 0xD800 ∨ 0xDFFF < stretch.1 ∧ stretch.2 ≤ 0x110000 := by decide
  rcases hends stretch hmem with hlow | ⟨hhigh, hlast⟩
  · exact Or.inl (by omega)
  · exact Or.inr ⟨by omega, by omega⟩

/-- Whether all code points from the first to the last lie in one of the stretches. -/
def areCapital (first last : Nat) : Bool :=
  capitalStretches.any fun stretch => Nat.ble stretch.1 first && Nat.blt last stretch.2

theorem isAlphabetic_of_areCapital {first last : Nat} (hcapital : areCapital first last)
    {point : Nat} (hfirst : first ≤ point) (hlast : point ≤ last) :
    isAlphabetic (Char.ofNat point) := by
  obtain ⟨stretch, hmem, hends⟩ := List.any_eq_true.mp hcapital
  rw [Bool.and_eq_true, Nat.ble_eq, Nat.blt_eq] at hends
  have hstart : stretch.1 ≤ point := Nat.le_trans hends.1 hfirst
  have hstop : point < stretch.2 := Nat.lt_of_le_of_lt hlast hends.2
  have hpoint : (Char.ofNat point).toNat = point := by
    rw [Char.ofNat, dif_pos (isValidChar_of_mem_capitalStretches hmem hstart hstop)]
    rfl
  rw [isAlphabetic, CodePointSet.contains, hpoint]
  exact oddBelow_of_mem_stretches alphabetic_sorted (capitalStretches_sublist.subset hmem) hstart
    hstop

/-! ## Images under the runs -/

theorem shift_eq_or {runs : List CaseRun} {point : Nat} :
    shift runs point = point ∨ ∃ run ∈ runs, ∃ offset ≤ run.last - run.first,
      offset % run.stride = 0 ∧ shift runs point = run.image + offset := by
  induction runs with
  | nil => exact Or.inl rfl
  | cons run rest ih =>
    unfold shift
    split_ifs with hbefore hinside
    · exact Or.inl rfl
    · exact Or.inr ⟨run, List.mem_cons_self, point - run.first, by omega, hinside.2, rfl⟩
    · rcases ih with hsame | ⟨other, hmem, hother⟩
      · exact Or.inl hsame
      · exact Or.inr ⟨other, List.mem_cons_of_mem run hmem, hother⟩

/-- Whether the images of a run are capitals. Most runs lead into a single stretch, so that their
ends decide; the others are looked at one code point at a time. -/
def CaseRun.leadsToCapitals (run : CaseRun) : Bool :=
  areCapital run.image (run.image + (run.last - run.first)) ||
    (List.range (run.last - run.first + 1)).all fun offset =>
      offset % run.stride != 0 || areCapital (run.image + offset) (run.image + offset)

theorem upperMapping_leadsToCapitals : upperMapping.runs.all CaseRun.leadsToCapitals := by
  decide +kernel

theorem CaseRun.isAlphabetic_image {run : CaseRun} (hrun : run.leadsToCapitals) {offset : Nat}
    (hlast : offset ≤ run.last - run.first) (hstride : offset % run.stride = 0) :
    isAlphabetic (Char.ofNat (run.image + offset)) := by
  rcases Bool.or_eq_true_iff.mp hrun with hends | hpoints
  · exact isAlphabetic_of_areCapital hends (by omega) (by omega)
  · have hpoint := List.all_eq_true.mp hpoints offset (List.mem_range.mpr (by omega))
    rw [Bool.or_eq_true, bne_iff_ne] at hpoint
    have hcapital := hpoint.resolve_left (not_not_intro hstride)
    exact isAlphabetic_of_areCapital hcapital (Nat.le_refl _) (Nat.le_refl _)

/-- A character without a longer image is its own upper case, or has an alphabetic one. -/
theorem shift_upperMapping (point : Nat) :
    shift upperMapping.runs point = point ∨
      isAlphabetic (Char.ofNat (shift upperMapping.runs point)) := by
  rcases @shift_eq_or upperMapping.runs point with hsame | ⟨run, hrun, offset, hlast, hstride, heq⟩
  · exact Or.inl hsame
  · rw [heq]
    have hcapitals := List.all_eq_true.mp upperMapping_leadsToCapitals run hrun
    exact Or.inr (CaseRun.isAlphabetic_image hcapitals hlast hstride)

/-! ## Longer images -/

theorem mem_of_expansion?_eq_some {expansions : List (Nat × List Nat)} {point : Nat}
    {image : List Nat} (hsome : expansion? expansions point = some image) :
    (point, image) ∈ expansions := by
  induction expansions with
  | nil => cases hsome
  | cons entry rest ih =>
    unfold expansion? at hsome
    split_ifs at hsome with hbefore heq
    · obtain rfl := Option.some.inj hsome
      exact heq ▸ List.mem_cons_self
    · exact List.mem_cons_of_mem entry (ih hsome)

/-- The characters whose upper case has a combining mark that is not alphabetic. -/
def markedCodes : List Nat := [
  0x1F0, 0x390, 0x3B0, 0x1E96, 0x1E97, 0x1E98, 0x1E99, 0x1F50, 0x1F52, 0x1F54, 0x1F56, 0x1FB6,
  0x1FB7, 0x1FC6, 0x1FC7, 0x1FD2, 0x1FD3, 0x1FD6, 0x1FD7, 0x1FE2, 0x1FE3, 0x1FE4, 0x1FE6, 0x1FE7,
  0x1FF6, 0x1FF7]

def hasMarkedCapital (char : Char) : Bool := markedCodes.contains char.toNat

end PrefAccessors.Text

namespace PrefAccessors.Name

open Text

/-! ## Capitalised identifiers -/

theorem not_all_toUpper {char : Char} (hmarked : hasMarkedCapital char) :
    ¬ (toUpper char).all isIdentifierPart := by
  have hcodes : ∀ code ∈ markedCodes, ¬ (toUpper (Char.ofNat code)).all isIdentifierPart := by
    decide +kernel
  have hchar := hcodes char.toNat (List.contains_iff_mem.mp hmarked)
  rwa [Char.ofNat_toNat] at hchar

/-- Alphabetic characters alone are an identifier. -/
theorem isIdentifierChars_of_isAlphabetic {text : List Char} (hne : text ≠ [])
    (halphabetic : ∀ char ∈ text, isAlphabetic char) : isIdentifierChars text := by
  have hstart : ∀ char ∈ text, isIdentifierStart char := by
    intro char hchar
    rw [isIdentifierStart, halphabetic char hchar]
    rfl
  obtain ⟨first, rest, rfl⟩ := List.exists_cons_of_ne_nil hne
  rw [List.forall_mem_cons] at hstart
  rw [isIdentifierChars_cons, List.all_eq_true]
  exact ⟨hstart.1, fun char hchar => isIdentifierPart_of_start (hstart.2 char hchar)⟩

theorem isIdentifierChars_expansion {point : Nat} {image : List Nat}
    (hsome : expansion? upperMapping.expansions point = some image) :
    markedCodes.contains point ∨ isIdentifierChars (image.map Char.ofNat) := by
  have hentries : upperMapping.expansions.all fun entry => markedCodes.contains entry.1 ||
      !entry.2.isEmpty && entry.2.all fun code => areCapital code code := by
    decide +kernel
  have hentry := List.all_eq_true.mp hentries (point, image) (mem_of_expansion?_eq_some hsome)
  rw [Bool.or_eq_true, Bool.and_eq_true, Bool.not_eq_true', List.isEmpty_eq_false_iff,
    List.all_eq_true] at hentry
  apply hentry.imp_right
  rintro ⟨hne, hcapital⟩
  apply isIdentifierChars_of_isAlphabetic
  · simpa using hne
  · rw [List.forall_mem_map]
    intro code hcode
    exact isAlphabetic_of_areCapital (hcapital code hcode) (Nat.le_refl _) (Nat.le_refl _)

/-- The upper case of a character that can begin an identifier is an identifier, unless it has
a combining mark. -/
theorem isIdentifierChars_toUpper {char : Char} (hstart : isIdentifierStart char)
    (hmarked : ¬ hasMarkedCapital char) : isIdentifierChars (toUpper char) := by
  unfold toUpper CaseMapping.apply
  split
  next image hsome => exact (isIdentifierChars_expansion hsome).resolve_left hmarked
  next =>
    rw [isIdentifierChars_cons]
    refine ⟨?_, rfl⟩
    rcases shift_upperMapping char.toNat with hsame | halphabetic
    · rwa [hsame, Char.ofNat_toNat]
    · rw [isIdentifierStart, halphabetic]
      rfl

/-- Whether the first character of the name has an upper case with a combining mark. -/
def beginsMarked (name : String) : Bool := name.toList.head?.any hasMarkedCapital

/-- A prefix and a capitalised identifier make an identifier exactly if the first character of
the identifier has no marked upper case and the prefix is empty or an identifier itself. -/
theorem isIdentifier_append_capitalize {start name : String} (hname : isIdentifier name) :
    isIdentifier (start ++ capitalize name) ↔
      ¬ beginsMarked name ∧ (start = "" ∨ isIdentifier start) := by
  unfold isIdentifier at hname
  unfold isIdentifier beginsMarked capitalize
  rw [String.toList_append, String.toList_ofList]
  cases hchars : name.toList with
  | nil =>
    rw [hchars] at hname
    cases hname
  | cons first rest =>
    rw [hchars, isIdentifierChars_cons] at hname
    rw [capitalizeChars, List.head?_cons, Option.any_some]
    by_cases hmarked : hasMarkedCapital first
    · -- The mark stands behind the prefix, where no identifier can have it.
      refine iff_of_false ?_ fun hright => hright.1 hmarked
      intro hall
      have hparts := all_of_isIdentifierChars hall
      rw [List.all_append, List.all_append, Bool.and_eq_true_iff, Bool.and_eq_true_iff] at hparts
      exact not_all_toUpper hmarked hparts.2.1
    · have hupper := isIdentifierChars_toUpper hname.1 hmarked
      have hparts : (toUpper first ++ rest).all isIdentifierPart := by
        rw [List.all_append, all_of_isIdentifierChars hupper, hname.2]
        rfl
      rw [and_iff_right hmarked]
      by_cases hempty : start = ""
      · have hne : toUpper first ≠ [] := by
          intro hnil
          rw [hnil] at hupper
          cases hupper
        simp [hempty, isIdentifierChars_append hne, hupper, hname.2]
      · have hne : start.toList ≠ [] := fun hnil => hempty (String.toList_eq_nil_iff.mp hnil)
        simp [hempty, isIdentifierChars_append hne, hparts]

end PrefAccessors.Name
