import PrefAccessors.Declaration.Writing
import PrefAccessors.Proofs.ForestReading
import PrefAccessors.Proofs.TagText

/-! # Written declarations read back

A document that is written from groups is read as the same groups, whatever their
strings hold. Escaping keeps quotation marks out of attribute values and is
undone when they are decoded; the tags of the document are read as they were
written; and every field is found again under its own key.
-/

namespace PrefAccessors

open Markup

/-! ## Attribute values -/

theorem unescapeFrom_escapeMarkup (char : Char) (rest : List Char) :
    unescapeFrom none (escapeMarkup char ++ rest) =
      (unescapeFrom none rest).map (char :: ·) := by
  unfold escapeMarkup
  split
  case h_5 hamp _ _ _ =>
    rw [List.singleton_append, unescapeFrom]
    exact if_neg hamp
  all_goals rfl

/-- Unescaping undoes escaping. -/
theorem unescape?_flatMap_escapeMarkup (value : List Char) :
    unescape? (value.flatMap escapeMarkup) = some value := by
  unfold unescape?
  induction value with
  | nil => rfl
  | cons char value ih => rw [List.flatMap_cons, unescapeFrom_escapeMarkup, ih, Option.map_some]

/-- An escaped value does not end at a quotation mark of its own. -/
theorem quote_notMem_flatMap_escapeMarkup (value : List Char) :
    '"' ∉ value.flatMap escapeMarkup := by
  intro hmem
  obtain ⟨char, _, hchar⟩ := List.mem_flatMap.mp hmem
  unfold escapeMarkup at hchar
  split at hchar
  case h_5 _ _ _ hquote => exact hquote (List.mem_singleton.mp hchar).symm
  all_goals simp at hchar

/-! ## Fields -/

/-- The attribute that a field is written as. -/
def attributeOfField (field : String × String) : Attribute :=
  ⟨field.1, String.ofList (field.2.toList.flatMap escapeMarkup)⟩

/-- The fields that have a value. -/
def presentFields (fields : List (String × Option String)) : List (String × String) :=
  fields.filterMap fun (key, value?) => value?.map (key, ·)

theorem decodeAttribute_attributeOfField (field : String × String) :
    decodeAttribute (attributeOfField field) = .ok field := by
  simp [decodeAttribute, attributeOfField, unescape?_flatMap_escapeMarkup]

theorem keys_presentFields_sublist (fields : List (String × Option String)) :
    ((presentFields fields).map Prod.fst).Sublist (fields.map Prod.fst) := by
  induction fields with
  | nil => exact List.Sublist.refl _
  | cons field rest ih =>
    obtain ⟨key, value?⟩ := field
    cases value? with
    | none => exact ih.cons _
    | some value => exact ih.cons_cons _

/-- With distinct keys, a field is found under its key exactly if it has a value. -/
theorem lookup_presentFields {fields : List (String × Option String)}
    (hdistinct : (fields.map Prod.fst).Nodup) (key : String) :
    (presentFields fields).lookup key = (fields.lookup key).join := by
  induction fields with
  | nil => rfl
  | cons field rest ih =>
    obtain ⟨other, value?⟩ := field
    rw [List.map_cons, List.nodup_cons] at hdistinct
    have hrest := ih hdistinct.2
    by_cases hkey : key = other
    · subst hkey
      cases value? with
      | none =>
        -- An absent field must not be found under the key of a later one.
        have habsent : (presentFields rest).lookup key = none := by
          rw [List.lookup_eq_none_iff]
          intro field hfield
          rw [bne_iff_ne]
          intro hsame
          apply hdistinct.1
          rw [hsame]
          exact (keys_presentFields_sublist rest).subset (List.mem_map_of_mem hfield)
        simpa [presentFields] using habsent
      | some value => simp [presentFields]
    · have hbeq : (key == other) = false := beq_false_of_ne hkey
      cases value? <;> simpa [presentFields, List.lookup_cons, hbeq] using hrest

/-- The tag that is written for fields. -/
def tagOfFields (name : String) (fields : List (String × Option String)) : Tag :=
  ⟨name, (presentFields fields).map attributeOfField⟩

theorem toList_writeAttribute (key value : String) :
    (writeAttribute key value).toList = (attributeOfField (key, value)).chars := by
  simp [writeAttribute, attributeOfField, Attribute.chars]

theorem chars_tagOfFields (name : String) (fields : List (String × Option String)) :
    (tagOfFields name fields).chars = name.toList ++ (writeAttributes fields).toList := by
  rw [Tag.chars, tagOfFields, writeAttributes, String.toList_join, presentFields]
  induction fields with
  | nil => rfl
  | cons field rest ih =>
    obtain ⟨key, value?⟩ := field
    rw [List.append_right_inj] at ih ⊢
    cases value? with
    | none => simpa using ih
    | some value => simpa [toList_writeAttribute] using ih

theorem tagOfFields_isWritable {name : String} {fields : List (String × Option String)}
    (hname : IsWord name) (hmarkup : beginsTag name.toList)
    (hplain : '/' ∉ name.toList) (hkeys : ∀ key ∈ fields.map Prod.fst, IsWord key)
    (hdistinct : (fields.map Prod.fst).Nodup) : (tagOfFields name fields).IsWritable where
  name := hname
  markup := hmarkup
  plain := hplain
  keys pair hpair := by
    obtain ⟨field, hfield, rfl⟩ := List.mem_map.mp hpair
    exact hkeys _ ((keys_presentFields_sublist fields).subset (List.mem_map_of_mem hfield))
  distinct := by
    rw [tagOfFields, List.map_map]
    exact hdistinct.sublist (keys_presentFields_sublist fields)
  values pair hpair := by
    obtain ⟨field, _, rfl⟩ := List.mem_map.mp hpair
    rw [attributeOfField, String.toList_ofList]
    exact quote_notMem_flatMap_escapeMarkup _

theorem mapM_attributes_tagOfFields {decode : Attribute → Except DeclarationError (String × String)}
    (name : String) {fields : List (String × Option String)}
    (hdecode : ∀ field ∈ presentFields fields, decode (attributeOfField field) = .ok field) :
    (tagOfFields name fields).attributes.mapM decode = .ok (presentFields fields) := by
  rw [tagOfFields, List.mapM_map]
  exact mapM_eq_ok_self hdecode

/-! ## Entries -/

/-- The tag that is written for an entry. -/
def Entry.tag (entry : Entry) : Tag := tagOfFields entryElement entry.fields

theorem Entry.keys_fields (entry : Entry) :
    entry.fields.map Prod.fst =
      ["name", "type", "default", "booleanPrefix", "key", "description"] := rfl

theorem Entry.tag_isWritable (entry : Entry) : entry.tag.IsWritable := by
  apply tagOfFields_isWritable
  · decide
  · decide
  · decide
  · rw [entry.keys_fields]; decide
  · rw [entry.keys_fields]; decide

theorem Entry.entryOfAttributes_tag (entry : Entry) :
    entryOfAttributes entry.tag.attributes = .ok entry := by
  have hdistinct : (entry.fields.map Prod.fst).Nodup := by rw [entry.keys_fields]; decide
  rw [entryOfAttributes, Entry.tag,
    mapM_attributes_tagOfFields _ fun field _ => decodeAttribute_attributeOfField field,
    ok_bind, entryOfFields]
  simp only [lookup_presentFields hdistinct]
  simp [Entry.fields, List.lookup_cons]

/-! ## Groups -/

/-- The tag that is written for a group. -/
def Group.tag (group : Group) : Tag := tagOfFields groupElement group.fields

theorem Group.keys_fields (group : Group) :
    group.fields.map Prod.fst =
      ["name", "package", "defaultType", "editor", "editorType", "description"] := rfl

theorem Group.tag_isWritable (group : Group) : group.tag.IsWritable := by
  apply tagOfFields_isWritable
  · decide
  · decide
  · decide
  · rw [group.keys_fields]; decide
  · rw [group.keys_fields]; decide

theorem readsAsChained?_chained : readsAsChained? "chained" = some true := by
  decide

/-- The style that is written for chained setters is one that can be read. -/
theorem Group.decodeGroupAttribute_attributeOfField {group : Group} {field : String × String}
    (hfield : field ∈ presentFields group.fields) :
    decodeGroupAttribute (attributeOfField field) = .ok field := by
  -- Only the editor style can be refused for its value, and it is written in one spelling.
  have hstyle : ¬(field.1 = "editor" ∧ readsAsChained? field.2 = none) := by
    rintro ⟨hkey, hstyle⟩
    obtain ⟨⟨key, value?⟩, hmem, hvalue⟩ := List.mem_filterMap.mp hfield
    obtain ⟨value, rfl, rfl⟩ := Option.map_eq_some_iff.mp hvalue
    obtain rfl : key = "editor" := hkey
    have hwritten : some value = group.editorMode.editorType?.map fun _ => "chained" := by
      simpa [Group.fields] using hmem
    obtain ⟨_, _, rfl⟩ := Option.map_eq_some_iff.mp hwritten.symm
    rw [readsAsChained?_chained] at hstyle
    exact Option.some_ne_none _ hstyle
  simp [decodeGroupAttribute, decodeAttribute_attributeOfField, hstyle]

theorem editorModeOf_written (mode : EditorMode) :
    editorModeOf (mode.editorType?.map fun _ => "chained") mode.editorType? = mode := by
  cases mode with
  | immediate => rfl
  | chained editorType =>
    simp [EditorMode.editorType?, editorModeOf, readsAsChained?_chained]

theorem Group.groupOfAttributes_tag (group : Group) :
    groupOfAttributes group.tag.attributes = .ok { group with entries := [] } := by
  have hdistinct : (group.fields.map Prod.fst).Nodup := by rw [group.keys_fields]; decide
  rw [groupOfAttributes, Group.tag,
    mapM_attributes_tagOfFields _ fun field => group.decodeGroupAttribute_attributeOfField,
    ok_bind, groupOfFields]
  simp only [lookup_presentFields hdistinct]
  simp [Group.fields, List.lookup_cons, editorModeOf_written]

/-! ## Documents -/

/-- The node that is written for a group. -/
def Group.node (group : Group) : Node :=
  .element group.tag (group.entries.map fun entry => .empty entry.tag)

/-- The tag around all groups of a document. -/
def documentTag : Tag := ⟨"declarations", []⟩

theorem documentTag_isWritable : documentTag.IsWritable where
  name := by decide
  markup := by decide
  plain := by decide
  keys := by simp [documentTag]
  distinct := by simp [documentTag]
  values := by simp [documentTag]

theorem toList_writeEntry (entry : Entry) :
    (writeEntry entry).toList = '<' :: (entry.tag.chars ++ ['/', '>']) := by
  simp [writeEntry, Entry.tag, chars_tagOfFields]

theorem toList_writeGroup (group : Group) :
    (writeGroup group).toList =
      '<' :: (group.tag.chars ++ '>' :: ((group.entries.flatMap fun entry =>
        (writeEntry entry).toList) ++ '<' :: '/' :: (groupElement.toList ++ ['>']))) := by
  simp [writeGroup, Group.tag, chars_tagOfFields, List.flatMap_map]

/-- The stream that begins with the given events. -/
def Markup.EventStream.prepend (events : List Event) (stream : EventStream) : EventStream :=
  ⟨events ++ stream.events, stream.fault?⟩

theorem eventsOfText_entries (openNames : List String) (entries : List Entry)
    (rest : List Char) :
    eventsOfText openNames ((entries.flatMap fun entry => (writeEntry entry).toList) ++ rest) =
      (eventsOfText openNames rest).prepend
        (forestEvents (entries.map fun entry => .empty entry.tag)) := by
  induction entries with
  | nil => rfl
  | cons entry entries ih =>
    have htext : (writeEntry entry).toList ++
        ((entries.flatMap fun entry => (writeEntry entry).toList) ++ rest) =
        '<' :: (entry.tag.chars ++ '/' :: '>' ::
          ((entries.flatMap fun entry => (writeEntry entry).toList) ++ rest)) := by
      simp [toList_writeEntry]
    rw [List.flatMap_cons, List.append_assoc, htext, eventsOfText_emptyTag entry.tag_isWritable,
      ih]
    rfl

theorem eventsOfText_group (openNames : List String) (group : Group) (rest : List Char) :
    eventsOfText openNames ((writeGroup group).toList ++ rest) =
      (eventsOfText openNames rest).prepend group.node.events := by
  have htext : (writeGroup group).toList ++ rest =
      '<' :: (group.tag.chars ++ '>' :: ((group.entries.flatMap fun entry =>
        (writeEntry entry).toList) ++ '<' :: '/' :: (groupElement.toList ++ '>' :: rest))) := by
    simp [toList_writeGroup]
  have hclose : eventsOfText (groupElement :: openNames)
      ('<' :: '/' :: (groupElement.toList ++ '>' :: rest)) =
        (eventsOfText openNames rest).cons .endTag :=
    eventsOfText_endTag (by decide) openNames rest
  rw [htext, eventsOfText_startTag group.tag_isWritable]
  change (eventsOfText (groupElement :: openNames) _).cons _ = _
  rw [eventsOfText_entries, hclose]
  simp [EventStream.cons, EventStream.prepend, Group.node, Node.events]

theorem eventsOfText_groups (openNames : List String) (groups : List Group)
    (rest : List Char) :
    eventsOfText openNames ((groups.flatMap fun group => (writeGroup group).toList) ++ rest) =
      (eventsOfText openNames rest).prepend (forestEvents (groups.map Group.node)) := by
  induction groups with
  | nil => rfl
  | cons group groups ih =>
    rw [List.flatMap_cons, List.append_assoc, eventsOfText_group, ih]
    simp [EventStream.prepend, forestEvents]

/-- A written document has the events of its tree and no fault. -/
theorem readEvents_writeDeclarations (groups : List Group) :
    readEvents (writeDeclarations groups) =
      ⟨forestEvents [.element documentTag (groups.map Group.node)], none⟩ := by
  have htext : (writeDeclarations groups).toList =
      '<' :: (documentTag.chars ++ '>' :: ((groups.flatMap fun group =>
        (writeGroup group).toList) ++
          '<' :: '/' :: ("declarations".toList ++ ['>']))) := by
    have hopen : "<declarations>".toList = '<' :: (documentTag.chars ++ ['>']) := by decide
    have hclose : "</declarations>".toList = '<' :: '/' :: ("declarations".toList ++ ['>']) := by
      decide
    unfold writeDeclarations
    rw [String.toList_append, String.toList_append, String.toList_join, List.flatMap_map, hopen,
      hclose]
    simp only [List.cons_append, List.append_assoc, List.nil_append]
  have hclose : eventsOfText ["declarations"] ('<' :: '/' :: ("declarations".toList ++ ['>'])) =
      ⟨[.endTag], none⟩ :=
    eventsOfText_endTag (by decide) [] []
  change eventsOfText [] (dropOrderMark (writeDeclarations groups).toList) = _
  rw [htext]
  change eventsOfText [] ('<' :: (documentTag.chars ++ '>' :: _)) = _
  rw [eventsOfText_startTag documentTag_isWritable]
  change (eventsOfText ["declarations"] _).cons _ = _
  rw [eventsOfText_groups, hclose]
  simp [EventStream.cons, EventStream.prepend, forestEvents, Node.events]

theorem Entry.entryOfElement_tag (entry : Entry) : entryOfElement ⟨entry.tag, []⟩ = .ok entry := by
  obtain ⟨name, typeSpelling?, default?, booleanPrefix?, key?, description?⟩ := entry
  rw [entryOfElement, Entry.entryOfAttributes_tag]
  simp [contentOfChildren, contentDefault?_empty]

/-- The element that is written for a group declares the group. -/
theorem Group.groupOfElement_node (group : Group) :
    groupOfElement ⟨group.tag, group.entries.map fun entry => .empty entry.tag⟩ = .ok group := by
  have hentries : elementsNamed entryElement (group.entries.map fun entry => .empty entry.tag) =
      group.entries.map fun entry => ⟨entry.tag, []⟩ := by
    induction group.entries with
    | nil => rfl
    | cons entry rest ih =>
      rw [List.map_cons, elementsNamed_cons, ih]
      simp [Node.elementNamed?, Entry.tag, tagOfFields]
  have hread : (group.entries.map fun entry => (⟨entry.tag, []⟩ : Element)).mapM entryOfElement =
      .ok group.entries := by
    rw [List.mapM_map]
    exact mapM_eq_ok_self fun entry _ => entry.entryOfElement_tag
  rw [groupOfElement, group.groupOfAttributes_tag, ok_bind, hentries, hread]
  rfl

theorem outermostNamed_groups (groups : List Group) :
    outermostNamed groupElement (groups.map Group.node) =
      groups.map fun group => ⟨group.tag, group.entries.map fun entry => .empty entry.tag⟩ := by
  induction groups with
  | nil => rfl
  | cons group rest ih =>
    rw [List.map_cons, outermostNamed, ih]
    simp [Group.node, Node.outermost, Group.tag, tagOfFields]

/-- Whatever groups are written, at least one, the document declares exactly them. -/
theorem readDeclarations_writeDeclarations {groups : List Group} (hne : groups ≠ []) :
    readDeclarations (writeDeclarations groups) = .ok groups := by
  have houtermost : outermostNamed groupElement
      [.element documentTag (groups.map Group.node)] =
        groups.map fun group => ⟨group.tag, group.entries.map fun entry => .empty entry.tag⟩ := by
    have hname : documentTag.name ≠ groupElement := by decide
    simp [outermostNamed, Node.outermost, hname, outermostNamed_groups]
  have hread : (groups.map fun group =>
      (⟨group.tag, group.entries.map fun entry => .empty entry.tag⟩ : Element)).mapM
        groupOfElement = .ok groups := by
    rw [List.mapM_map]
    exact mapM_eq_ok_self fun group _ => group.groupOfElement_node
  rw [readDeclarations, readEvents_writeDeclarations, groupsOfStream, Reading.start,
    foldlM_forestEvents_outside, houtermost, hread]
  simp [Reading.finish, hne]

/-- Groups whose strings look like markup, like references, and like blanks. -/
def markupLikeGroups : List Group := [
  { name := "</preferences>\"", package? := some "", editorMode := .chained "&amp;'/>",
    entries := [
      { name := "a\" default=\"1", typeSpelling? := some "<![CDATA[", key? := some "]]>&#38;" },
      { name := "", default? := some " \t\r\n ", description? := some "<!-- -->" }] },
  { name := "\uFEFF", defaultTypeSpelling? := some "&" }]

theorem readDeclarations_markupLikeGroups :
    markupLikeGroups ≠ [] ∧
      readDeclarations (writeDeclarations markupLikeGroups) = .ok markupLikeGroups :=
  ⟨List.cons_ne_nil _ _, readDeclarations_writeDeclarations (List.cons_ne_nil _ _)⟩

end PrefAccessors
