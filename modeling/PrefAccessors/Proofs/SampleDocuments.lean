import Mathlib.Data.List.Nodup
import PrefAccessors.Proofs.EntryDefaults
import PrefAccessors.Proofs.GroupResolution
import PrefAccessors.Proofs.RunResults
import PrefAccessors.Proofs.SampleNames
import PrefAccessors.Wrapper.Accessors

/-! # Sample documents

A sample document of any size goes through all steps: it is read as one group with
the entries that were asked for, the group is accepted, and its class is generated.
The lines of the document are read one after the other, each with the line break
before it, which stands inside the group and means nothing.
-/

namespace PrefAccessors.Sample

open Markup Wrapper

/-! ## What a sample document declares -/

/-- The entry that is declared at a position. Its default is the literal of its type, with the
references in it replaced. -/
def entry (position : Nat) : Entry where
  name := entryName position
  typeSpelling? := some (entryType position).spelling
  default? :=
    if position % 2 = 0 then
      (unescape? (literal (entryType position)).toList).map String.ofList
    else none

def group (entries : Nat) (chained : Bool) : Group where
  name := "BenchSettings"
  package? := some "com.example.bench"
  editorMode := if chained then .chained EditorMode.defaultEditorType else .immediate
  entries := (List.range entries).map entry

/-- The tag that opens the group. -/
def groupTag (chained : Bool) : Tag where
  name := groupElement
  attributes := [
    ⟨"name", "BenchSettings"⟩,
    ⟨"package", "com.example.bench"⟩,
    ⟨"editor", if chained then "chained" else "immediate"⟩]

theorem isSome_default?_iff (position : Nat) :
    (entry position).default?.isSome ↔ position % 2 = 0 := by
  have hliteral (type : ValueType) : (unescape? (literal type).toList).isSome := by
    cases type <;> decide
  rw [entry]
  split
  next heven => simp [heven, hliteral]
  next hodd => simp [hodd]

/-! ## Lines -/

theorem flatMap_escapeMarkup_eq_self {value : List Char}
    (hvalue : ∀ char ∈ value, escapeMarkup char = [char]) :
    value.flatMap escapeMarkup = value := by
  induction value with
  | nil => rfl
  | cons char rest ih =>
    rw [List.forall_mem_cons] at hvalue
    rw [List.flatMap_cons, hvalue.1, ih hvalue.2, List.singleton_append]

theorem escapeMarkup_entryName (position : Nat) :
    (entryName position).toList.flatMap escapeMarkup = (entryName position).toList := by
  apply flatMap_escapeMarkup_eq_self
  apply forall_mem_entryName
  · exact List.forall_iff_forall_mem.mp (by decide)
  · intro char hdigit
    exact forall_isAscii (fun char => char.isDigit → escapeMarkup char = [char])
      (by decide +kernel) (isAscii_of_isDigit hdigit) hdigit
  · intro type
    cases type <;> exact List.forall_iff_forall_mem.mp (by decide)

theorem escapeMarkup_spelling (type : ValueType) :
    type.spelling.toList.flatMap escapeMarkup = type.spelling.toList := by
  cases type <;> decide

/-- The literal of a type is what its value is written as in an attribute. -/
theorem exists_unescape?_literal (type : ValueType) :
    ∃ value, unescape? (literal type).toList = some value ∧
      value.flatMap escapeMarkup = (literal type).toList := by
  cases type with
  | string => exact ⟨"\"text\"".toList, by decide, by decide⟩
  | _ => exact ⟨_, rfl, by decide⟩

/-- A line holds the tag that is written for its entry. -/
theorem toList_entryLine (position : Nat) :
    (entryLine position).toList =
      "    ".toList ++ '<' :: ((entry position).tag.chars ++ ['/', '>', '\n']) := by
  have hname := escapeMarkup_entryName position
  have htype := escapeMarkup_spelling (entryType position)
  obtain ⟨value, hvalue, hescape⟩ := exists_unescape?_literal (entryType position)
  rw [Entry.tag, chars_tagOfFields]
  unfold entryLine entry
  -- Which name and type it is makes no difference from here on.
  generalize entryName position = name at hname ⊢
  generalize entryType position = type at htype hvalue hescape ⊢
  by_cases heven : position % 2 = 0
  · simp [Entry.fields, writeAttributes, writeAttribute, entryElement, heven, hvalue, hescape,
      hname, htype]
  · simp [Entry.fields, writeAttributes, writeAttribute, entryElement, heven, hname, htype]

theorem toList_document (entries : Nat) (chained : Bool) :
    (document entries chained).toList = '<' :: ((groupTag chained).chars ++ '>' :: '\n' ::
      (((List.range entries).flatMap fun position => (entryLine position).toList) ++
        '<' :: '/' :: (groupElement.toList ++ ['>', '\n']))) := by
  have hstart : ("<preferences name=\"BenchSettings\" package=\"com.example.bench\" editor=\"" ++
      (if chained then "chained" else "immediate") ++ "\">\n").toList =
        '<' :: ((groupTag chained).chars ++ ['>', '\n']) := by
    have hparts : "<preferences name=\"BenchSettings\" package=\"com.example.bench\" editor=\"" =
        "<preferences name=\"" ++ "BenchSettings" ++ "\" package=\"" ++ "com.example.bench" ++
          "\" editor=\"" := rfl
    rw [hparts]
    -- `simp` alone would join the literals again.
    simp only [groupTag, Tag.chars, Attribute.chars, String.toList_append, List.flatMap_cons,
      List.flatMap_nil, List.append_assoc, List.cons_append]
    cases chained <;> rfl
  have hend : "</preferences>\n".toList = '<' :: '/' :: (groupElement.toList ++ ['>', '\n']) := by
    decide
  unfold document
  rw [String.toList_append, String.toList_append, hstart, hend, String.toList_join,
    List.flatMap_map]
  simp only [List.cons_append, List.append_assoc, List.nil_append]

/-! ## Reading the document -/

theorem groupTag_isWritable (chained : Bool) : (groupTag chained).IsWritable where
  name := (by decide : IsWord groupElement)
  markup := (by decide : beginsTag groupElement.toList)
  plain := (by decide : '/' ∉ groupElement.toList)
  keys := by cases chained <;> decide
  distinct := by cases chained <;> decide
  values := by cases chained <;> decide

theorem groupOfAttributes_groupTag (chained : Bool) :
    groupOfAttributes (groupTag chained).attributes = .ok (group 0 chained) := by
  cases chained <;> rfl

section

variable (openNames : List String) (groups : List Group) (group : Group)

/-- A line break and the blanks behind it are passed over between the entries of a group. -/
theorem resume_blanks {run : List Char} (hrun : ∀ char ∈ run, isPlain char) (hne : run ≠ [])
    (more : List Char) :
    Reading.resume ⟨groups, .inGroup group 0⟩ (eventsOfText openNames (run ++ '<' :: more)) =
      Reading.resume ⟨groups, .inGroup group 0⟩ (eventsOfText openNames ('<' :: more)) := by
  have hevents := eventsOfText_plain hrun hne (Or.inl rfl) openNames more
  rw [List.nil_append] at hevents
  rw [hevents, Reading.resume_cons]
  rfl

/-- The lines of entries add the entries to the group that they stand in. -/
theorem resume_lines (positions : List Nat) (more : List Char) :
    Reading.resume ⟨groups, .inGroup group 0⟩ (eventsOfText openNames
        ('\n' :: ((positions.flatMap fun position => (entryLine position).toList) ++
          '<' :: more))) =
      Reading.resume ⟨groups, .inGroup (group.addEntries (positions.map entry)) 0⟩
        (eventsOfText openNames ('<' :: more)) := by
  -- The line break behind an entry is read with the line that follows.
  induction positions generalizing group with
  | nil =>
    have hempty : group.addEntries [] = group := by simp [Group.addEntries]
    rw [List.map_nil, hempty]
    have hplain : ∀ char ∈ ['\n'], isPlain char := List.all_eq_true.mp rfl
    exact resume_blanks openNames groups group hplain (List.cons_ne_nil _ _) more
  | cons position rest ih =>
    have htext : '\n' :: (((position :: rest).flatMap fun position =>
        (entryLine position).toList) ++ '<' :: more) =
          "\n    ".toList ++ '<' :: ((entry position).tag.chars ++ '/' :: '>' :: '\n' ::
            ((rest.flatMap fun position => (entryLine position).toList) ++ '<' :: more)) := by
      simp [toList_entryLine]
    have hgroup : (group.addEntries [entry position]).addEntries (rest.map entry) =
        group.addEntries ((position :: rest).map entry) := by
      simp [Group.addEntries]
    have hplain : ∀ char ∈ "\n    ".toList, isPlain char := List.all_eq_true.mp rfl
    rw [htext, resume_blanks openNames groups group hplain (by decide),
      resume_emptyEntry (entry position).tag_isWritable rfl, Entry.entryOfAttributes_tag, ok_bind,
      ih, hgroup]

end

/-- A sample document declares one group, which holds its entries in their order. -/
theorem readDeclarations_document (entries : Nat) (chained : Bool) :
    readDeclarations (document entries chained) = .ok [group entries chained] := by
  have hopen : Reading.step Reading.start (.startTag (groupTag chained)) =
      .ok ⟨[], .inGroup (group 0 chained) 0⟩ := by
    change (groupOfAttributes (groupTag chained).attributes).map _ = _
    rw [groupOfAttributes_groupTag]
    rfl
  have hentries : (group 0 chained).addEntries ((List.range entries).map entry) =
      group entries chained := by
    simp [group, Group.addEntries]
  have hend : Reading.resume ⟨[], .inGroup (group entries chained) 0⟩
      (eventsOfText [groupElement] ('<' :: '/' :: (groupElement.toList ++ ['>', '\n']))) =
        .ok [group entries chained] := by
    rw [eventsOfText_endTag (by decide), Reading.resume_cons]
    rfl
  rw [readDeclarations, groupsOfStream_eq_resume]
  change Reading.resume _ (eventsOfText [] (dropOrderMark (document entries chained).toList)) = _
  rw [toList_document]
  change Reading.resume _ (eventsOfText [] ('<' :: ((groupTag chained).chars ++ '>' :: _))) = _
  rw [eventsOfText_startTag (groupTag_isWritable chained), Reading.resume_cons, hopen, ok_bind,
    resume_lines, hentries]
  exact hend

/-! ## Its class -/

theorem ofSpelling?_spelling (type : ValueType) :
    ValueType.ofSpelling? type.spelling = some type := by
  cases type <;> decide

theorem map_accessor_entries (entries : Nat) (chained : Bool) :
    (group entries chained).entries.map Entry.accessor =
      (List.range entries).map fun position => Name.camelCase (entryName position) := by
  rw [group, List.map_map]
  rfl

/-- A sample group has known types, and its accessor names are distinct identifiers. -/
theorem isValid_group (entries : Nat) (chained : Bool) : (group entries chained).IsValid where
  defaultType := nofun
  types := by
    rw [group, List.forall_mem_map]
    intro position _ spelling hspelling
    obtain rfl := Option.mem_some_iff.mp hspelling
    rw [ofSpelling?_spelling]
    rfl
  names := by
    rw [group, List.forall_mem_map]
    exact fun position _ => isIdentifier_camelCase_entryName position
  distinct := by
    rw [map_accessor_entries]
    exact List.Nodup.map (fun _ _ => camelCase_entryName_injective) List.nodup_range

theorem type?_entry (position : Nat) : (entry position).type? = some (entryType position) := by
  have hspelling : (entry position).typeSpelling? = some (entryType position).spelling := rfl
  rw [Entry.type?, hspelling, Option.bind_some, ofSpelling?_spelling]

theorem valueType_preference_entry (position : Nat) :
    ((entry position).preference none).valueType = entryType position := by
  have htype (other : Entry) :
      (other.preference none).valueType = (other.type? <|> none).getD .string := rfl
  rw [htype, type?_entry]
  rfl

theorem length_accessors (receivers : Receivers) (mode : EditorMode) (preference : Preference) :
    (receivers.accessors mode preference).length = preference.default?.toList.length + 2 := by
  rw [Receivers.accessors, List.length_append]
  cases preference.default? <;> rfl

theorem length_default? (position : Nat) :
    (entry position).default?.toList.length = if position % 2 = 0 then 1 else 0 := by
  have hdefault := isSome_default?_iff position
  cases hvalue : (entry position).default? <;> simp_all

/-- Every entry has two accessors, and every second one a third. -/
theorem length_flatMap_accessors (receivers : Receivers) (mode : EditorMode) (entries : Nat) :
    ((List.range entries).flatMap fun position =>
      receivers.accessors mode ((entry position).preference none)).length =
        2 * entries + (entries + 1) / 2 := by
  induction entries with
  | zero => rfl
  | succ entries ih =>
    have hlast : ((entry entries).preference none).default? = (entry entries).default? := rfl
    rw [List.range_succ, List.flatMap_append, List.length_append, ih, List.flatMap_singleton,
      length_accessors, hlast, length_default?]
    split <;> omega

theorem length_groupAccessors {entries : Nat} {chained : Bool} {resolved : PreferenceGroup}
    (hresolve : (group entries chained).resolve = .ok resolved) (receivers : Receivers) :
    (receivers.groupAccessors resolved).length = 2 * entries + (entries + 1) / 2 := by
  rw [Receivers.groupAccessors, Group.preferences_of_resolve hresolve, group, List.map_map,
    List.flatMap_map]
  exact length_flatMap_accessors receivers resolved.editorMode entries

/-- What a sample group is resolved to: preferences of the types in turn, whose accessor names are
distinct identifiers, and which have two methods each and a third one for every default. -/
structure IsResolvedSample (entries : Nat) (resolved : PreferenceGroup) : Prop where
  types : resolved.preferences.map Preference.valueType = (List.range entries).map entryType
  names : ∀ preference ∈ resolved.preferences, Name.isIdentifier preference.accessor
  distinct : (resolved.preferences.map Preference.accessor).Nodup
  methods : ∀ receivers : Receivers,
    (receivers.groupAccessors resolved).length = 2 * entries + (entries + 1) / 2

theorem isResolvedSample_of_resolve {entries : Nat} {chained : Bool} {resolved : PreferenceGroup}
    (hresolve : (group entries chained).resolve = .ok resolved) :
    IsResolvedSample entries resolved where
  types := by
    rw [Group.preferences_of_resolve hresolve, group, List.map_map, List.map_map]
    exact List.map_congr_left fun position _ => valueType_preference_entry position
  names := fun _ => Group.isNameable_of_resolve hresolve
  distinct := Group.accessors_nodup_of_resolve hresolve
  methods := length_groupAccessors hresolve

/-- A sample document of any size declares the sample group and nothing else, every second entry
has a default, the group is accepted, and its class is generated whatever the settings are. -/
theorem document_outcome (entries : Nat) (chained : Bool) :
    readDeclarations (document entries chained) = .ok [group entries chained] ∧
      (∀ position, (entry position).default?.isSome ↔ position % 2 = 0) ∧
      (∃ resolved, (group entries chained).resolve = .ok resolved ∧
        IsResolvedSample entries resolved) ∧
      ∀ settings, ∃ text, (generateText settings (document entries chained)).result = .ok text := by
  have hread := readDeclarations_document entries chained
  have hvalid := isValid_group entries chained
  obtain ⟨resolved, hresolve⟩ :=
    Group.exists_resolve_eq_ok_iff.mpr (Group.problems_eq_nil_iff.mpr hvalid)
  have hresolved := isResolvedSample_of_resolve hresolve
  refine ⟨hread, isSome_default?_iff, ⟨resolved, hresolve, hresolved⟩, ?_⟩
  intro settings
  have hname : Name.isIdentifier (group entries chained).name :=
    (by decide : Name.isIdentifier "BenchSettings")
  refine exists_generateText_eq_ok_iff.mpr ⟨_, hread, List.nodup_singleton _, ?_⟩
  rw [List.forall_mem_singleton]
  exact ⟨⟨resolved, hresolve⟩, hname⟩

end PrefAccessors.Sample
