import PrefAccessors.Proofs.DocumentBeginnings

/-! # Faulty attributes

Pieces of a tag that are no attributes are reported by the reader of attributes, but
nothing comes of the report: the tag has the attributes that could be read. A document
is therefore read as if the faulty pieces did not stand there. What can be read of a
tag can be written again, so that the tag without its faulty pieces is another text.
-/

namespace PrefAccessors

namespace Markup

/-! ## Attributes that can be read -/

/-- Attributes that can be read behind others with the given keys: each has a new key, and a value
without one of the two quotation marks. -/
inductive CanFollow : List (List Char) → List Attribute → Prop
  | nil (seen : List (List Char)) : CanFollow seen []
  | cons {seen : List (List Char)} {pair : Attribute} {rest : List Attribute} (quote : Quote)
    (hkey : IsKey pair.key.toList) (hnew : pair.key.toList ∉ seen)
    (hvalue : quote.char ∉ pair.rawValue.toList) (hrest : CanFollow (pair.key.toList :: seen) rest) :
    CanFollow seen (pair :: rest)

theorem CanFollow.cons_ofList {seen : List (List Char)} {key rawValue : List Char}
    {rest : List Attribute} {quote : Quote} (hkey : IsKey key) (hnew : key ∉ seen)
    (hvalue : quote.char ∉ rawValue) (hrest : CanFollow (key :: seen) rest) :
    CanFollow seen (⟨String.ofList key, String.ofList rawValue⟩ :: rest) := by
  rw [← @String.toList_ofList key] at hkey hnew hrest
  rw [← @String.toList_ofList rawValue] at hvalue
  exact .cons quote hkey hnew hvalue hrest

theorem CanFollow.mono {seen more : List (List Char)} {attributes : List Attribute}
    (hfollow : CanFollow more attributes) (hsubset : seen ⊆ more) : CanFollow seen attributes := by
  induction hfollow generalizing seen with
  | nil => exact .nil seen
  | cons quote hkey hnew hvalue _ ih =>
    have hlater := ih (List.cons_subset_cons _ hsubset)
    exact .cons quote hkey (fun hmem => hnew (hsubset hmem)) hvalue hlater

theorem CanFollow.notMem {seen : List (List Char)} {attributes : List Attribute}
    (hfollow : CanFollow seen attributes) : ∀ pair ∈ attributes, pair.key.toList ∉ seen := by
  induction hfollow with
  | nil => nofun
  | cons _ _ hnew _ _ ih =>
    rw [List.forall_mem_cons]
    exact ⟨hnew, fun other hother hmem => ih other hother (List.mem_cons_of_mem _ hmem)⟩

theorem CanFollow.nodup {seen : List (List Char)} {attributes : List Attribute}
    (hfollow : CanFollow seen attributes) : (attributes.map Attribute.key).Nodup := by
  induction hfollow with
  | nil => exact List.nodup_nil
  | cons _ _ _ _ hrest ih =>
    rw [List.map_cons, List.nodup_cons]
    refine ⟨?_, ih⟩
    intro hmem
    obtain ⟨other, hother, heq⟩ := List.mem_map.mp hmem
    exact hrest.notMem other hother (heq ▸ List.mem_cons_self)

theorem CanFollow.isKey {seen : List (List Char)} {attributes : List Attribute}
    (hfollow : CanFollow seen attributes) : ∀ pair ∈ attributes, IsKey pair.key.toList := by
  induction hfollow with
  | nil => nofun
  | cons _ hkey _ _ _ ih => exact List.forall_mem_cons.mpr ⟨hkey, ih⟩

/-- The quotation mark for a value: the double one, unless the value holds it. -/
def Attribute.mark (pair : Attribute) : Quote :=
  if '"' ∈ pair.rawValue.toList then .single else .double

theorem Attribute.mark_notMem {pair : Attribute} {quote : Quote}
    (hvalue : quote.char ∉ pair.rawValue.toList) : pair.mark.char ∉ pair.rawValue.toList := by
  unfold mark
  split
  next hdouble =>
    cases quote with
    | single => exact hvalue
    | double => exact absurd hdouble hvalue
  next hdouble => exact hdouble

theorem CanFollow.mark_notMem {seen : List (List Char)} {attributes : List Attribute}
    (hfollow : CanFollow seen attributes) :
    ∀ pair ∈ attributes, pair.mark.char ∉ pair.rawValue.toList := by
  induction hfollow with
  | nil => nofun
  | cons _ _ _ hvalue _ ih => exact List.forall_mem_cons.mpr ⟨Attribute.mark_notMem hvalue, ih⟩

theorem notMem_of_cutAt?_singleton {mark : Char} {text before after : List Char}
    (hcut : cutAt? [mark] text = some (before, after)) : mark ∉ before := by
  induction text generalizing before with
  | nil => cases hcut
  | cons char rest ih =>
    simp only [cutAt?, List.isPrefixOf, Bool.and_true, beq_iff_eq] at hcut
    split at hcut
    next =>
      obtain ⟨rfl, _⟩ := Prod.mk.inj (Option.some.inj hcut)
      exact List.not_mem_nil
    next hne =>
      obtain ⟨⟨inner, outer⟩, hinner, heq⟩ := Option.map_eq_some_iff.mp hcut
      obtain ⟨rfl, rfl⟩ := Prod.mk.inj heq
      rw [List.mem_cons, not_or]
      exact ⟨hne, ih hinner⟩

theorem isKey_of_dropWhile {text afterFirst : List Char} {first : Char}
    (hdrop : text.dropWhile isSpace = first :: afterFirst) :
    IsKey (first :: afterFirst.takeWhile continuesKey) := by
  have hfirst := List.head?_dropWhile_not isSpace text
  rw [hdrop] at hfirst
  exact ⟨first, _, rfl, by simpa using hfirst, fun _ => List.mem_takeWhile_imp⟩

/-- Whatever stands in a tag, the attributes that are read of it can be written one behind the
other. -/
theorem canFollow_readPieces (budget : Nat) (seen : List (List Char)) (text : List Char) :
    CanFollow seen (goodAttributes (readPieces budget seen text)) := by
  induction budget generalizing seen text with
  | zero => exact .nil seen
  | succ budget ih =>
    unfold readPieces
    split
    next => exact .nil seen
    next first afterFirst hdrop =>
      have hkey := isKey_of_dropWhile hdrop
      dsimp only
      split
      next => exact .nil seen
      next next rest _ =>
        split_ifs with hequals hseen
        · exact ih seen (next :: rest)
        · exact ih seen (fromNextSpace rest)
        · split
          next => exact .nil seen
          next mark value _ =>
            split
            next => exact (ih _ _).mono (List.subset_cons_self _ _)
            next quote _ =>
              split
              next => exact .nil seen
              next rawValue after hcut =>
                have hnew : first :: afterFirst.takeWhile continuesKey ∉ seen := fun hmem =>
                  hseen (List.contains_iff_mem.mpr hmem)
                exact .cons_ofList hkey hnew (notMem_of_cutAt?_singleton hcut) (ih _ after)

/-- The attributes of a tag that can be read. -/
def readableAttributes (content : List Char) : List Attribute :=
  goodAttributes (attributePieces (Tag.attributeText content))

/-- The content of a tag without its faulty pieces. -/
def withoutFaults (content : List Char) : List Char :=
  Tag.quotedChars Attribute.mark (Tag.ofContent content)

theorem isQuotable_ofContent (content : List Char) :
    (Tag.ofContent content).IsQuotable Attribute.mark := by
  have hfollow : CanFollow [] (readableAttributes content) := canFollow_readPieces _ _ _
  refine ⟨fun char hchar => ?_, hfollow.isKey, hfollow.nodup, hfollow.mark_notMem⟩
  rw [Tag.ofContent, Tag.nameOf, String.toList_ofList] at hchar
  simpa using List.mem_takeWhile_imp hchar

/-! ## Tags in a document -/

/-- A tag is cut at the same place whatever follows it. -/
theorem cutTag_append {quote? : Option Quote} {content : List Char}
    (hcloses : cutTag quote? (content ++ ['>']) = .ok (content, [])) (rest : List Char) :
    cutTag quote? (content ++ rest) =
      (cutTag none rest).map fun cut => (content ++ cut.1, cut.2) := by
  induction content generalizing quote? with
  | nil =>
    cases quote? with
    | none => cases hcut : cutTag none rest <;> simp [hcut, Except.map]
    | some quote => cases quote <;> cases hcloses
  | cons char content ih =>
    -- Whatever mark is open behind the character, the rest of the content closes it.
    have hkeep : ∀ next : Option Quote,
        (cutTag next (content ++ ['>'])).map (prependToCut char) = .ok (char :: content, []) →
          (cutTag next (content ++ rest)).map (prependToCut char) =
            (cutTag none rest).map fun cut => (char :: content ++ cut.1, cut.2) := by
      intro next hnext
      obtain ⟨⟨inner, outer⟩, hinner, heq⟩ := map_eq_ok_iff.mp hnext
      obtain ⟨hcontent, rfl⟩ := Prod.mk.inj heq
      obtain rfl := (List.cons.inj hcontent).2
      rw [ih hinner]
      cases cutTag none rest <;> rfl
    cases quote? with
    | none =>
      simp only [List.cons_append, cutTag] at hcloses ⊢
      split at hcloses
      next => cases hcloses
      next hopen =>
        rw [if_neg hopen]
        exact hkeep _ hcloses
    | some quote => exact hkeep _ hcloses

end Markup

open Markup

/-- What stands between the brackets of a tag that opens a group or an entry, without the slash if
the tag is an empty one. -/
structure IsTagContent (isEmpty : Bool) (content : List Char) : Prop where
  element : Tag.nameOf content = groupElement ∨ Tag.nameOf content = entryElement
  closes : cutTag none (content ++ ['>']) = .ok (content, [])
  slash : isEmpty ∨ content.getLast? ≠ some '/'

/-- A tag as it stands in a document. -/
def tagText (isEmpty : Bool) (content : List Char) : String :=
  String.ofList ('<' :: (content ++ (if isEmpty then ['/', '>'] else ['>'])))

namespace IsTagContent

variable {isEmpty : Bool} {content : List Char}

theorem passes (htag : IsTagContent isEmpty content) : Passes content :=
  fun rest => cutTag_append htag.closes rest

/-- The name of the tag is a word, and begins neither an end tag nor any other markup. -/
theorem isWord_nameOf (htag : IsTagContent isEmpty content) :
    IsWord (Tag.nameOf content) ∧ beginsTag (Tag.nameOf content).toList ∧
      '/' ∉ (Tag.nameOf content).toList := by
  rcases htag.element with heq | heq <;> rw [heq] <;> decide

theorem beginsTag (htag : IsTagContent isEmpty content) : content ≠ [] ∧ beginsTag content := by
  obtain ⟨hword, hmarkup, _⟩ := htag.isWord_nameOf
  have hne := hword.ne_nil
  rw [Tag.nameOf, String.toList_ofList] at hne hmarkup
  rw [← List.takeWhile_append_dropWhile (p := fun char => !isSpace char) (l := content)]
  refine ⟨List.append_ne_nil_of_left_ne_nil hne _, ?_⟩
  rw [beginsTag_append hne]
  exact hmarkup

/-- The event of a tag depends on nothing but its name and the attributes that can be read. -/
theorem eventsOfText_eq (htag : IsTagContent isEmpty content) (openNames : List String)
    (rest : List Char) :
    eventsOfText openNames ((tagText isEmpty content).toList ++ rest) =
      if isEmpty then (eventsOfText openNames rest).cons (.emptyTag (Tag.ofContent content))
      else (eventsOfText ((Tag.ofContent content).name :: openNames) rest).cons
        (.startTag (Tag.ofContent content)) := by
  obtain ⟨hne, hmarkup⟩ := htag.beginsTag
  rw [tagText, String.toList_ofList, List.cons_append, List.append_assoc]
  cases isEmpty with
  | true => exact eventsOfText_empty_of_passes htag.passes hmarkup hne openNames rest
  | false =>
    have hslash := htag.slash.resolve_left Bool.false_ne_true
    exact eventsOfText_start_of_passes htag.passes hmarkup hne hslash openNames rest

/-- Without its faulty pieces a tag is still a tag, if no key that is left holds a character with a
meaning to the end of tags. -/
theorem withoutFaults (htag : IsTagContent isEmpty content)
    (hkeys : ∀ pair ∈ readableAttributes content, ∀ char ∈ pair.key.toList, isNeutral char) :
    IsTagContent isEmpty (withoutFaults content) := by
  have hquotable := isQuotable_ofContent content
  have hname : Tag.nameOf (Markup.withoutFaults content) = Tag.nameOf content :=
    hquotable.nameOf_quotedChars
  obtain ⟨hword, _, hslash⟩ := htag.isWord_nameOf
  have hpasses : Passes (Markup.withoutFaults content) :=
    Tag.passes_quotedChars hword.neutral hkeys hquotable.values
  refine ⟨?_, hpasses.cutTag_eq [], Or.inr (Tag.getLast?_quotedChars hslash)⟩
  rw [hname]
  exact htag.element

end IsTagContent

/-- What a tag is to a reader of the document. -/
def tagEvent (isEmpty : Bool) (tag : Tag) : Event := if isEmpty then .emptyTag tag else .startTag tag

/-- A document is read up to a tag, then the tag, and then what follows it. -/
theorem readDeclarations_at_tag {before after : String} {isEmpty : Bool} {content : List Char}
    (hfault : (readEvents before).fault? = none) (htag : IsTagContent isEmpty content) :
    readDeclarations (before ++ (tagText isEmpty content ++ after)) =
      (readEvents before).events.foldlM Reading.step Reading.start >>= fun reading =>
        reading.step (tagEvent isEmpty (Tag.ofContent content)) >>= fun next =>
          let openNames := (openTags (readEvents before).events).map Tag.name
          next.resume (eventsOfText
            (if isEmpty then openNames else (Tag.ofContent content).name :: openNames)
            after.toList) := by
  have hhead : (tagText isEmpty content ++ after).toList.head? = some '<' := by
    rw [String.toList_append, tagText, String.toList_ofList]
    rfl
  have hmarkup : isPlain '<' = false := rfl
  rw [readDeclarations_append hfault hmarkup hhead, String.toList_append, htag.eventsOfText_eq]
  refine congrArg _ (funext fun reading => ?_)
  cases isEmpty <;> exact Reading.resume_cons reading _ _

/-- Two tags of the same name with the same readable attributes mean the same in a document. -/
theorem readDeclarations_congr_tag {before after : String} {isEmpty : Bool}
    {first second : List Char} (hfault : (readEvents before).fault? = none)
    (hfirst : IsTagContent isEmpty first) (hsecond : IsTagContent isEmpty second)
    (hsame : Tag.ofContent first = Tag.ofContent second) :
    readDeclarations (before ++ (tagText isEmpty first ++ after)) =
      readDeclarations (before ++ (tagText isEmpty second ++ after)) := by
  rw [readDeclarations_at_tag hfault hfirst, readDeclarations_at_tag hfault hsecond, hsame]

/-- The faulty pieces of a tag are passed over without an error, wherever the tag stands: the
document is read as with any tag that has just the readable attributes. Such a tag can be written,
as far as no key that is left holds a quotation mark or a closing bracket. -/
theorem readDeclarations_of_faulty_tag {before after : String} {isEmpty : Bool}
    {faulty : List Char} (hfault : (readEvents before).fault? = none)
    (hfaulty : IsTagContent isEmpty faulty) :
    (∀ sound, IsTagContent isEmpty sound → Tag.nameOf sound = Tag.nameOf faulty →
      attributePieces (Tag.attributeText sound) = (readableAttributes faulty).map .ok →
        readDeclarations (before ++ (tagText isEmpty faulty ++ after)) =
          readDeclarations (before ++ (tagText isEmpty sound ++ after))) ∧
    ((∀ pair ∈ readableAttributes faulty, ∀ char ∈ pair.key.toList, isNeutral char) →
      IsTagContent isEmpty (withoutFaults faulty) ∧
        Tag.nameOf (withoutFaults faulty) = Tag.nameOf faulty ∧
        attributePieces (Tag.attributeText (withoutFaults faulty)) =
          (readableAttributes faulty).map .ok) := by
  constructor
  · intro sound hsound hname hpieces
    apply readDeclarations_congr_tag hfault hfaulty hsound
    rw [Tag.ofContent, Tag.ofContent, hname, hpieces, goodAttributes_map_ok]
    rfl
  · intro hkeys
    have hquotable := isQuotable_ofContent faulty
    exact ⟨hfaulty.withoutFaults hkeys, hquotable.nameOf_quotedChars,
      hquotable.attributePieces_quotedChars⟩

/-- The beginning of a document, up to an entry. -/
def displayStart : String := "<preferences name=\"Display\">"

/-- The content of the tag of an entry whose type has no quotation marks. -/
def unquotedType : List Char := "entry name=\"volume\" type=integer".toList

def displayEnd : String := "</preferences>"

theorem attributePieces_unquotedType : attributePieces (Tag.attributeText unquotedType) =
    [.ok ⟨"name", "volume"⟩, .error (.unquotedValue "type")] := by
  unfold unquotedType
  rw [String.toList_ofList]
  rfl

theorem isTagContent_unquotedType : IsTagContent true unquotedType := by
  unfold unquotedType
  rw [String.toList_ofList]
  exact ⟨Or.inr rfl, rfl, Or.inl rfl⟩

theorem readDeclarations_of_unquotedType :
    (readEvents displayStart).fault? = none ∧ IsTagContent true unquotedType ∧
      readDeclarations (displayStart ++ (tagText true unquotedType ++ displayEnd)) =
        readDeclarations (displayStart ++ (tagText true "entry name=\"volume\"".toList ++
          displayEnd)) := by
  have hfault : (readEvents displayStart).fault? = none := by
    unfold readEvents displayStart
    rw [String.toList_ofList]
    rfl
  have hfaulty := isTagContent_unquotedType
  obtain ⟨hsame, hwritten⟩ :=
    @readDeclarations_of_faulty_tag displayStart displayEnd true unquotedType hfault hfaulty
  have hreadable : readableAttributes unquotedType = [⟨"name", "volume"⟩] := by
    rw [readableAttributes, attributePieces_unquotedType]
    rfl
  have htext : withoutFaults unquotedType = "entry name=\"volume\"".toList := by
    unfold unquotedType
    rw [String.toList_ofList, String.toList_ofList]
    rfl
  rw [hreadable, htext] at hwritten
  have hword : ∀ pair ∈ [(⟨"name", "volume"⟩ : Attribute)], IsWord pair.key := by decide
  obtain ⟨hsound, hname, hpieces⟩ := hwritten fun pair hpair => (hword pair hpair).neutral
  rw [← hreadable] at hpieces
  exact ⟨hfault, hfaulty, hsame _ hsound hname hpieces⟩

/-- An entry is accepted although the reader of attributes reports a fault in its tag. The type
that was written is lost. -/
theorem readDeclarations_accepts_unquotedType :
    .error (.unquotedValue "type") ∈ attributePieces (Tag.attributeText unquotedType) ∧
      readDeclarations (displayStart ++ (tagText true unquotedType ++ displayEnd)) =
        .ok [{ name := "Display", entries := [{ name := "volume" }] }] := by
  have hevents : readEvents (displayStart ++ (tagText true unquotedType ++ displayEnd)) =
      ⟨[.startTag ⟨"preferences", [⟨"name", "Display"⟩]⟩,
        .emptyTag ⟨"entry", [⟨"name", "volume"⟩]⟩, .endTag], none⟩ := by
    unfold readEvents displayStart tagText unquotedType displayEnd
    rw [String.toList_append, String.toList_append, String.toList_ofList, String.toList_ofList,
      String.toList_ofList, String.toList_ofList]
    rfl
  constructor
  · rw [attributePieces_unquotedType]
    exact List.mem_cons_of_mem _ List.mem_cons_self
  · rw [readDeclarations, hevents]
    rfl

end PrefAccessors
