import PrefAccessors.Proofs.ElementContent

/-! # Defaults as attributes and as content

The default of an entry can be written as an attribute or as the content of its
element, and both forms mean the same; only the blanks around a default are kept in
an attribute and lost in content. Whatever surrounds an entry does not depend on it,
so exchanging one form for the other changes no other part of a document's
declarations.
-/

namespace PrefAccessors

open Markup

/-! ## One entry among others -/

/-- Whether a result that depends on an entry is the same error for all entries, or a value with
the property for all of them. -/
def IsUniform {α : Type} (result : Entry → Except DeclarationError α)
    (property : (Entry → α) → Prop) : Prop :=
  (∃ error, ∀ entry, result entry = .error error) ∨
    ∃ value, property value ∧ ∀ entry, result entry = .ok (value entry)

section

variable {α β : Type} {result : Entry → Except DeclarationError α}
  {next : α → Except DeclarationError β} {property : (Entry → α) → Prop}
  {outcome : (Entry → β) → Prop}

theorem IsUniform.ok {value : Entry → α} (hvalue : property value) :
    IsUniform (fun entry => .ok (value entry)) property := .inr ⟨value, hvalue, fun _ => rfl⟩

theorem IsUniform.bind (hresult : IsUniform result property)
    (hnext : ∀ value, property value → IsUniform (fun entry => next (value entry)) outcome) :
    IsUniform (fun entry => result entry >>= next) outcome := by
  rcases hresult with ⟨error, herror⟩ | ⟨value, hvalue, hok⟩
  · exact .inl ⟨error, fun entry => by simp only [herror, error_bind]⟩
  · simp only [hok, ok_bind]
    exact hnext value hvalue

/-- A step that does not look at the entry. -/
theorem IsUniform.map {fixed : Except DeclarationError β} {change : Entry → β → α}
    (hchange : ∀ middle, property fun entry => change entry middle) :
    IsUniform (fun entry => fixed.map (change entry)) property := by
  cases fixed with
  | error error => exact .inl ⟨error, fun _ => rfl⟩
  | ok middle => exact .ok (hchange middle)

end

/-- The group with more entries behind those it has. -/
def Group.addEntries (group : Group) (entries : List Entry) : Group :=
  { group with entries := group.entries ++ entries }

theorem Group.addEntry_addEntries (group : Group) (entries : List Entry) (entry : Entry) :
    (group.addEntries entries).addEntry entry = group.addEntries (entries ++ [entry]) := by
  simp [addEntries, addEntry]

/-- Readings that differ in one entry of one group, which is still open or already complete. -/
inductive HasSlot (earlier : List Group) (group : Group) : (Entry → Reading) → Prop
  | inGroup (rest : List Entry) (ignored : Nat) : HasSlot earlier group fun entry =>
      ⟨earlier, .inGroup (group.addEntries (entry :: rest)) ignored⟩
  | inEntry (rest : List Entry) (other : Entry) (content : String) (ignored : Nat) :
      HasSlot earlier group fun entry =>
        ⟨earlier, .inEntry (group.addEntries (entry :: rest)) other content ignored⟩
  | complete (rest : List Entry) (later : List Group) (place : Place) :
      HasSlot earlier group fun entry =>
        ⟨earlier ++ group.addEntries (entry :: rest) :: later, place⟩

/-- The reading behind groups that are complete before it. -/
def Reading.behind (first : List Group) (reading : Reading) : Reading :=
  ⟨first ++ reading.groups, reading.place⟩

theorem Reading.stepOutside_append (first groups : List Group) (event : Event) :
    stepOutside (first ++ groups) event = (stepOutside groups event).map (behind first) := by
  cases event with
  | startTag tag =>
    simp only [stepOutside]
    split
    next => cases groupOfAttributes tag.attributes <;> rfl
    next => rfl
  | emptyTag tag =>
    simp only [stepOutside, List.append_assoc]
    split
    next => cases groupOfAttributes tag.attributes <;> rfl
    next => rfl
  | _ => rfl

theorem Reading.stepInGroup_append (first groups : List Group) (group : Group) (event : Event) :
    stepInGroup (first ++ groups) group event =
      (stepInGroup groups group event).map (behind first) := by
  cases event with
  | startTag tag | emptyTag tag =>
    simp only [stepInGroup]
    split
    next => cases entryOfAttributes tag.attributes <;> rfl
    next => rfl
  | endTag => simp [stepInGroup, Except.map, behind]
  | _ => rfl

theorem Reading.stepInEntry_append (first groups : List Group) (group : Group) (entry : Entry)
    (content : String) (event : Event) :
    stepInEntry (first ++ groups) group entry content event =
      (stepInEntry groups group entry content event).map (behind first) := by
  cases event with
  | reference name =>
    simp only [stepInEntry]
    cases referredCharacter entry name <;> rfl
  | _ => rfl

/-- What an event means does not depend on the groups that are complete. -/
theorem Reading.step_append (first groups : List Group) (place : Place) (event : Event) :
    step ⟨first ++ groups, place⟩ event = (step ⟨groups, place⟩ event).map (behind first) := by
  cases place with
  | outside => exact stepOutside_append first groups event
  | inGroup group ignored =>
    cases ignored with
    | zero => exact stepInGroup_append first groups group event
    | succ ignored => rfl
  | inEntry group entry content ignored =>
    cases ignored with
    | zero => exact stepInEntry_append first groups group entry content event
    | succ ignored => rfl

section

variable {earlier : List Group} {group : Group} {fill : Entry → Reading}

theorem HasSlot.stepInGroup (rest : List Entry) (event : Event) :
    IsUniform (fun entry =>
      Reading.stepInGroup earlier (group.addEntries (entry :: rest)) event)
        (HasSlot earlier group) := by
  cases event with
  | startTag tag =>
    simp only [Reading.stepInGroup]
    split
    next => exact .map fun other => .inEntry rest other "" 0
    next => exact .ok (.inGroup rest 1)
  | emptyTag tag =>
    simp only [Reading.stepInGroup, Group.addEntry_addEntries, List.cons_append]
    split
    next => exact .map fun other => .inGroup (rest ++ [other]) 0
    next => exact .ok (.inGroup rest 0)
  | endTag => exact .ok (.complete rest [] .outside)
  | _ => exact .ok (.inGroup rest 0)

theorem HasSlot.stepInEntry (rest : List Entry) (other : Entry) (content : String) (event : Event) :
    IsUniform (fun entry =>
      Reading.stepInEntry earlier (group.addEntries (entry :: rest)) other content event)
        (HasSlot earlier group) := by
  cases event with
  | startTag tag => exact .ok (.inEntry rest other content 1)
  | endTag =>
    simp only [Reading.stepInEntry, Group.addEntry_addEntries, List.cons_append]
    exact .ok (.inGroup (rest ++ [other.withContent content]) 0)
  | text more | characterData more => exact .ok (.inEntry rest other (content ++ more) 0)
  | reference name => exact .map fun char => .inEntry rest other (content.push char) 0
  | _ => exact .ok (.inEntry rest other content 0)

/-- What an event means does not depend on an entry that is complete. -/
theorem HasSlot.step (hslot : HasSlot earlier group fill) (event : Event) :
    IsUniform (fun entry => (fill entry).step event) (HasSlot earlier group) := by
  cases hslot with
  | inGroup rest ignored =>
    cases ignored with
    | zero => exact HasSlot.stepInGroup rest event
    | succ ignored => exact .ok (.inGroup rest _)
  | inEntry rest other content ignored =>
    cases ignored with
    | zero => exact HasSlot.stepInEntry rest other content event
    | succ ignored => exact .ok (.inEntry rest other content _)
  | complete rest later place =>
    simp only [List.append_cons earlier _ later, Reading.step_append]
    refine .map fun middle => ?_
    simpa [Reading.behind] using HasSlot.complete rest middle.groups middle.place

theorem HasSlot.run (hslot : HasSlot earlier group fill) (events : List Event) :
    IsUniform (fun entry => events.foldlM Reading.step (fill entry)) (HasSlot earlier group) := by
  induction events generalizing fill with
  | nil => exact .ok hslot
  | cons event rest ih =>
    simp only [List.foldlM_cons]
    exact (hslot.step event).bind fun _ hnext => ih hnext

/-- Groups that differ in one entry of one of them. -/
def HasSlotAmong (earlier : List Group) (group : Group) (fill : Entry → List Group) : Prop :=
  ∃ rest later, fill = fun entry => earlier ++ group.addEntries (entry :: rest) :: later

theorem HasSlot.finish (hslot : HasSlot earlier group fill) :
    IsUniform (fun entry => (fill entry).finish) (HasSlotAmong earlier group) := by
  cases hslot with
  | inGroup rest ignored =>
    exact .inl ⟨.invalidStructure (.unterminatedGroup group.name), fun _ => rfl⟩
  | inEntry rest other content ignored =>
    exact .inl ⟨.invalidStructure (.unterminatedGroup group.name), fun _ => rfl⟩
  | complete rest later place =>
    cases place with
    | outside =>
      refine .inr ⟨_, ⟨rest, later, rfl⟩, fun entry => ?_⟩
      simp [Reading.finish]
    | inGroup other ignored | inEntry other entry content ignored =>
      exact .inl ⟨.invalidStructure (.unterminatedGroup other.name), fun _ => rfl⟩

/-- Whatever follows an entry, it has the same meaning for every entry in that place. -/
theorem HasSlot.resume (hslot : HasSlot earlier group fill) (stream : EventStream) :
    IsUniform (fun entry => (fill entry).resume stream) (HasSlotAmong earlier group) := by
  refine (hslot.run stream.events).bind fun final hfinal => ?_
  cases stream.fault? with
  | some fault => exact .inl ⟨_, fun _ => rfl⟩
  | none => exact hfinal.finish

end

/-! ## The two forms of a default -/

/-- An entry whose default is an attribute. -/
def entryWithAttribute (name value : String) : String :=
  "<entry name=\"" ++ name ++ "\" default=\"" ++ value ++ "\"/>"

/-- An entry whose default is its content. -/
def entryWithContent (name value : String) : String :=
  "<entry name=\"" ++ name ++ "\">" ++ value ++ "</entry>"

theorem entryTag_isWritable {attributes : List Attribute}
    (hkeys : ∀ pair ∈ attributes, IsWord pair.key)
    (hdistinct : (attributes.map Attribute.key).Nodup)
    (hvalues : ∀ pair ∈ attributes, '"' ∉ pair.rawValue.toList) :
    Tag.IsWritable ⟨entryElement, attributes⟩ where
  name := (by decide : IsWord entryElement)
  markup := (by decide : beginsTag entryElement.toList)
  plain := (by decide : '/' ∉ entryElement.toList)
  keys := hkeys
  distinct := hdistinct
  values := hvalues

theorem toList_entryWithAttribute (name value : String) :
    (entryWithAttribute name value).toList =
      '<' :: (Tag.chars ⟨entryElement, [⟨"name", name⟩, ⟨"default", value⟩]⟩ ++ ['/', '>']) := by
  unfold entryWithAttribute
  simp [entryElement, Tag.chars, Attribute.chars]

theorem toList_entryWithContent (name value : String) :
    (entryWithContent name value).toList =
      '<' :: (Tag.chars ⟨entryElement, [⟨"name", name⟩]⟩ ++ '>' ::
        (value.toList ++ '<' :: '/' :: (entryElement.toList ++ ['>']))) := by
  unfold entryWithContent
  simp [entryElement, Tag.chars, Attribute.chars]

section

variable {name value : String} {earlier : List Group} {group : Group} {openNames : List String}
  {after : List Char}

/-- An entry without content is added to the group that it stands in. -/
theorem resume_emptyEntry {tag : Tag} (htag : tag.IsWritable) (hname : tag.name = entryElement) :
    Reading.resume ⟨earlier, .inGroup group 0⟩
        (eventsOfText openNames ('<' :: (tag.chars ++ '/' :: '>' :: after))) =
      entryOfAttributes tag.attributes >>= fun entry =>
        Reading.resume ⟨earlier, .inGroup (group.addEntries [entry]) 0⟩
          (eventsOfText openNames after) := by
  rw [eventsOfText_emptyTag htag, Reading.resume_cons]
  simp only [Reading.step, Reading.stepInGroup, if_pos hname, map_eq_bind, bind_assoc, ok_bind]
  rfl

theorem resume_entryWithAttribute (hname : '"' ∉ name.toList) (hvalue : '"' ∉ value.toList) :
    Reading.resume ⟨earlier, .inGroup group 0⟩
        (eventsOfText openNames ((entryWithAttribute name value).toList ++ after)) =
      entryOfAttributes [⟨"name", name⟩, ⟨"default", value⟩] >>= fun entry =>
        Reading.resume ⟨earlier, .inGroup (group.addEntries [entry]) 0⟩
          (eventsOfText openNames after) := by
  have htag : Tag.IsWritable ⟨entryElement, [⟨"name", name⟩, ⟨"default", value⟩]⟩ := by
    refine entryTag_isWritable ?_ (by simp) (by simp [hname, hvalue])
    simp only [List.forall_mem_cons]
    exact ⟨by decide, by decide, nofun⟩
  have htext : (entryWithAttribute name value).toList ++ after =
      '<' :: (Tag.chars ⟨entryElement, [⟨"name", name⟩, ⟨"default", value⟩]⟩ ++
        '/' :: '>' :: after) := by
    simp [toList_entryWithAttribute]
  rw [htext, resume_emptyEntry htag rfl]

theorem resume_entryWithContent (hname : '"' ∉ name.toList) :
    Reading.resume ⟨earlier, .inGroup group 0⟩
        (eventsOfText openNames ((entryWithContent name value).toList ++ after)) =
      entryOfAttributes [⟨"name", name⟩] >>= fun entry =>
        Reading.resume ⟨earlier, .inEntry group entry "" 0⟩
          (eventsOfText (entryElement :: openNames)
            (value.toList ++ '<' :: '/' :: (entryElement.toList ++ '>' :: after))) := by
  have htag : Tag.IsWritable ⟨entryElement, [⟨"name", name⟩]⟩ := by
    refine entryTag_isWritable ?_ (by simp) (by simp [hname])
    simp only [List.forall_mem_cons]
    exact ⟨by decide, nofun⟩
  have htext : (entryWithContent name value).toList ++ after =
      '<' :: (Tag.chars ⟨entryElement, [⟨"name", name⟩]⟩ ++ '>' ::
        (value.toList ++ '<' :: '/' :: (entryElement.toList ++ '>' :: after))) := by
    simp [toList_entryWithContent]
  rw [htext, eventsOfText_startTag htag, Reading.resume_cons]
  simp only [Reading.step, Reading.stepInGroup, if_true, map_eq_bind, bind_assoc, ok_bind]

theorem resume_entryEnd (entry : Entry) (content : String) :
    Reading.resume ⟨earlier, .inEntry group entry content 0⟩
        (eventsOfText (entryElement :: openNames)
          ('<' :: '/' :: (entryElement.toList ++ '>' :: after))) =
      Reading.resume ⟨earlier, .inGroup (group.addEntries [entry.withContent content]) 0⟩
        (eventsOfText openNames after) := by
  rw [eventsOfText_endTag (by decide), Reading.resume_cons]
  rfl

theorem decodeAttribute_of_some (key : String) {rawValue : String} {decoded : List Char}
    (hdecoded : unescape? rawValue.toList = some decoded) :
    decodeAttribute ⟨key, rawValue⟩ = .ok (key, String.ofList decoded) := by
  simp only [decodeAttribute, hdecoded]

theorem decodeAttribute_of_none (key : String) {rawValue : String}
    (hnone : unescape? rawValue.toList = none) :
    decodeAttribute ⟨key, rawValue⟩ = .error (.invalidAttribute "attribute" key rawValue) := by
  simp only [decodeAttribute, hnone]

theorem entryOfAttributes_name {decodedName : List Char}
    (hname : unescape? name.toList = some decodedName) :
    entryOfAttributes [⟨"name", name⟩] = .ok { name := String.ofList decodedName } := by
  rw [entryOfAttributes, List.mapM_cons, decodeAttribute_of_some _ hname]
  rfl

theorem entryOfAttributes_default {decodedName decoded : List Char}
    (hname : unescape? name.toList = some decodedName)
    (hvalue : unescape? value.toList = some decoded) :
    entryOfAttributes [⟨"name", name⟩, ⟨"default", value⟩] =
      .ok { name := String.ofList decodedName, default? := some (String.ofList decoded) } := by
  rw [entryOfAttributes, List.mapM_cons, List.mapM_cons, decodeAttribute_of_some _ hname,
    decodeAttribute_of_some _ hvalue]
  rfl

theorem exists_entryOfAttributes_error_of_name (hname : unescape? name.toList = none)
    (rest : List Attribute) : ∃ error, entryOfAttributes (⟨"name", name⟩ :: rest) = .error error := by
  rw [entryOfAttributes, List.mapM_cons, decodeAttribute_of_none _ hname]
  exact ⟨_, rfl⟩

theorem exists_entryOfAttributes_error_of_default {decodedName : List Char}
    (hname : unescape? name.toList = some decodedName) (hvalue : unescape? value.toList = none) :
    ∃ error, entryOfAttributes [⟨"name", name⟩, ⟨"default", value⟩] = .error error := by
  rw [entryOfAttributes, List.mapM_cons, List.mapM_cons, decodeAttribute_of_some _ hname,
    decodeAttribute_of_none _ hvalue]
  exact ⟨_, rfl⟩

/-- In place of each other, the two forms are both rejected, or they give groups that differ in the
default of the entry. -/
theorem resume_forms (hname : '"' ∉ name.toList) (hmark : '"' ∉ value.toList)
    (hopen : '<' ∉ value.toList) (earlier : List Group) (group : Group)
    (openNames : List String) (after : List Char) :
    let attributeResult := Reading.resume ⟨earlier, .inGroup group 0⟩
      (eventsOfText openNames ((entryWithAttribute name value).toList ++ after))
    let contentResult := Reading.resume ⟨earlier, .inGroup group 0⟩
      (eventsOfText openNames ((entryWithContent name value).toList ++ after))
    ((∃ error, attributeResult = .error error) ∧ ∃ error, contentResult = .error error) ∨
      ∃ (decodedName decoded : String) (rest : List Entry) (later : List Group),
        unescape? name.toList = some decodedName.toList ∧
        unescape? value.toList = some decoded.toList ∧
        attributeResult = .ok (earlier ++ group.addEntries
          ({ name := decodedName, default? := some decoded } :: rest) :: later) ∧
        contentResult = .ok (earlier ++ group.addEntries
          ({ name := decodedName, default? := contentDefault? decoded } :: rest) :: later) := by
  intro attributeResult contentResult
  have hattribute : attributeResult = _ := resume_entryWithAttribute hname hmark
  have hcontent : contentResult = _ := resume_entryWithContent hname
  have hread := Reading.resume_content (content_of_notMem hopen) (entryElement :: openNames)
    ('/' :: (entryElement.toList ++ '>' :: after)) earlier group
  cases hdecodedName : unescape? name.toList with
  | none =>
    left
    obtain ⟨error, herror⟩ :=
      exists_entryOfAttributes_error_of_name hdecodedName [⟨"default", value⟩]
    obtain ⟨error', herror'⟩ := exists_entryOfAttributes_error_of_name hdecodedName []
    rw [hattribute, hcontent, herror, herror']
    exact ⟨⟨_, rfl⟩, _, rfl⟩
  | some decodedName =>
    rw [entryOfAttributes_name hdecodedName, ok_bind] at hcontent
    specialize hread { name := String.ofList decodedName } ""
    cases hdecoded : unescape? value.toList with
    | none =>
      left
      obtain ⟨error, herror⟩ := exists_entryOfAttributes_error_of_default hdecodedName hdecoded
      rw [hdecoded] at hread
      rw [hattribute, hcontent, herror]
      exact ⟨⟨_, rfl⟩, hread⟩
    | some decoded =>
      rw [entryOfAttributes_default hdecodedName hdecoded, ok_bind] at hattribute
      rw [hdecoded] at hread
      -- Both results are those of one place, with another entry in it.
      have hsame : contentResult = Reading.resume ⟨earlier, .inGroup (group.addEntries
          [{ name := String.ofList decodedName,
             default? := contentDefault? (String.ofList decoded) }]) 0⟩
          (eventsOfText openNames after) := by
        rw [hcontent, hread, resume_entryEnd, Entry.withContent_eq, String.empty_append]
        rfl
      rcases HasSlot.resume (.inGroup [] 0) (eventsOfText openNames after) with
        ⟨error, herror⟩ | ⟨fill, ⟨rest, later, rfl⟩, hok⟩
      · left
        exact ⟨⟨error, hattribute.trans (herror _)⟩, error, hsame.trans (herror _)⟩
      · right
        exact ⟨String.ofList decodedName, String.ofList decoded, rest, later,
          by rw [String.toList_ofList], by rw [String.toList_ofList],
          hattribute.trans (hok _), hsame.trans (hok _)⟩

end

/-! ## Documents -/

/-- The default of an entry directly inside a group can be written as an attribute or as content:
either document is accepted if the other one is, and their groups differ in that default only,
which content gives without the blanks around it. -/
theorem readDeclarations_default_forms {before name value : String} (after : String)
    (hfault : (readEvents before).fault? = none)
    (hplace : IsGroupContent (openTags (readEvents before).events))
    (hname : '"' ∉ name.toList) (hmark : '"' ∉ value.toList) (hopen : '<' ∉ value.toList) :
    let withAttribute := readDeclarations (before ++ (entryWithAttribute name value ++ after))
    let withContent := readDeclarations (before ++ (entryWithContent name value ++ after))
    ((∃ groups, withAttribute = .ok groups) ↔ ∃ groups, withContent = .ok groups) ∧
      ∀ groups, withAttribute = .ok groups →
        ∃ (earlier later : List Group) (group : Group) (rest : List Entry)
          (decodedName decoded : String),
          earlier.length = endedGroups [] (readEvents before).events ∧
          unescape? name.toList = some decodedName.toList ∧
          unescape? value.toList = some decoded.toList ∧
          groups = earlier ++ group.addEntries
            ({ name := decodedName, default? := some decoded } :: rest) :: later ∧
          withContent = .ok (earlier ++ group.addEntries
            ({ name := decodedName, default? := contentDefault? decoded } :: rest) :: later) := by
  intro withAttribute withContent
  have hattributeHead : (entryWithAttribute name value ++ after).toList.head? = some '<' := by
    rw [String.toList_append, toList_entryWithAttribute]
    rfl
  have hcontentHead : (entryWithContent name value ++ after).toList.head? = some '<' := by
    rw [String.toList_append, toList_entryWithContent]
    rfl
  have hmarkup : isPlain '<' = false := rfl
  have hattribute : withAttribute = _ := readDeclarations_append hfault hmarkup hattributeHead
  have hcontent : withContent = _ := readDeclarations_append hfault hmarkup hcontentHead
  rw [String.toList_append] at hattribute hcontent
  cases hrun : (readEvents before).events.foldlM Reading.step Reading.start with
  | error error =>
    rw [hrun, error_bind] at hattribute hcontent
    simp [hattribute, hcontent]
  | ok reading =>
    obtain ⟨earlier, place⟩ := reading
    obtain ⟨group, rfl⟩ := (standsIn_start.after hrun).exists_inGroup hplace
    obtain ⟨ended, hended, hlength⟩ := standsIn_start.exists_ended hrun
    obtain rfl : earlier = ended := hended
    rw [hrun, ok_bind] at hattribute hcontent
    rcases resume_forms hname hmark hopen earlier group
        ((openTags (readEvents before).events).map Tag.name) after.toList with
      ⟨⟨error, herror⟩, error', herror'⟩ | ⟨decodedName, decoded, rest, later, hdecodedName,
        hdecoded, hleft, hright⟩
    · simp [hattribute.trans herror, hcontent.trans herror']
    · refine ⟨⟨fun _ => ⟨_, hcontent.trans hright⟩, fun _ => ⟨_, hattribute.trans hleft⟩⟩, ?_⟩
      intro groups hgroups
      obtain rfl := Except.ok.inj ((hattribute.trans hleft).symm.trans hgroups)
      exact ⟨earlier, later, group, rest, decodedName, decoded, hlength, hdecodedName, hdecoded,
        rfl, hcontent.trans hright⟩

/-- A default with blanks at its ends, references of all kinds, and marks that belong to none. -/
def mixedDefault : String := " x > 1; &lt;&#65;&#x42; ' "

theorem readDeclarations_mixedDefault :
    (readEvents (documentStart ++ openAccount)).fault? = none ∧
      IsGroupContent (openTags (readEvents (documentStart ++ openAccount)).events) ∧
      '"' ∉ "e".toList ∧ '"' ∉ mixedDefault.toList ∧ '<' ∉ mixedDefault.toList ∧
      ∃ (earlier later : List Group) (group : Group) (rest : List Entry), earlier.length = 1 ∧
        readDeclarations (documentStart ++ openAccount ++
            (entryWithAttribute "e" mixedDefault ++ documentEnd)) =
          .ok (earlier ++ group.addEntries
            ({ name := "e", default? := some " x > 1; <AB ' " } :: rest) :: later) ∧
        readDeclarations (documentStart ++ openAccount ++
            (entryWithContent "e" mixedDefault ++ documentEnd)) =
          .ok (earlier ++ group.addEntries
            ({ name := "e", default? := some "x > 1; <AB '" } :: rest) :: later) := by
  have hevents := readEvents_openDocument
  have hfault : (readEvents (documentStart ++ openAccount)).fault? = none := by rw [hevents]
  have hplace : IsGroupContent (openTags (readEvents (documentStart ++ openAccount)).events) := by
    rw [hevents]
    decide
  have hname : '"' ∉ "e".toList := by decide
  have hmark : '"' ∉ mixedDefault.toList := by decide
  have hopen : '<' ∉ mixedDefault.toList := by decide
  obtain ⟨groups, hgroups⟩ : ∃ groups, readDeclarations (documentStart ++ openAccount ++
      (entryWithAttribute "e" mixedDefault ++ documentEnd)) = .ok groups := by
    rw [← isOk_iff]
    unfold readDeclarations readEvents documentStart openAccount documentEnd mixedDefault
    simp only [String.toList_append, toList_entryWithAttribute]
    rw [String.toList_ofList, String.toList_ofList, String.toList_ofList]
    decide +kernel
  obtain ⟨earlier, later, group, rest, decodedName, decoded, hlength, hdecodedName, hdecoded, rfl,
    hcontent⟩ := (readDeclarations_default_forms documentEnd hfault hplace hname hmark hopen).2
      groups hgroups
  have hsame : unescape? mixedDefault.toList = some " x > 1; <AB ' ".toList := by
    unfold mixedDefault
    rw [String.toList_ofList, String.toList_ofList]
    rfl
  obtain rfl : decodedName = "e" :=
    String.toList_inj.mp (Option.some.inj (hdecodedName.symm.trans rfl))
  obtain rfl : decoded = " x > 1; <AB ' " :=
    String.toList_inj.mp (Option.some.inj (hdecoded.symm.trans hsame))
  have hone : endedGroups [] (readEvents (documentStart ++ openAccount)).events = 1 := by
    rw [hevents]
    decide
  have htrim : contentDefault? " x > 1; <AB ' " = some "x > 1; <AB '" := by decide +kernel
  rw [hone] at hlength
  rw [htrim] at hcontent
  exact ⟨hfault, hplace, hname, hmark, hopen, earlier, later, group, rest, hlength, hgroups,
    hcontent⟩

end PrefAccessors
