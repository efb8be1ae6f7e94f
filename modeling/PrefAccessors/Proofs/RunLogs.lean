import Mathlib.Algebra.Ring.Nat
import PrefAccessors.Proofs.DocumentBeginnings
import PrefAccessors.Proofs.GroupResolution
import PrefAccessors.Proofs.OutputDirectories

/-! # Logs of runs

The log of a run tells how far it came. It has an event for the document, and then the
events of the groups up to the one that ends the run: the entries with a usable type,
the storage keys that are shared, the group once it is resolved, and its class once it
is generated. A group whose name is repeated leaves no event. The lengths of the
classes in the log account for the whole text, line breaks between classes apart.
-/

namespace PrefAccessors

open Wrapper

/-- The length of the class of which the event tells. -/
def LogEvent.bytes : LogEvent → Nat
  | classGenerated _ _ bytes => bytes
  | _ => 0

namespace Group

/-- The event of an entry. -/
def entryEvent (group : Group) (entry : Entry) : LogEvent :=
  .preferenceResolved entry.name (entry.key?.getD entry.name)
    ((entry.type? <|> group.defaultType?).getD .string)

/-- The events of the entries whose type is absent or known. -/
def entryEvents (group : Group) : List LogEvent :=
  (group.entries.filter fun entry => IsReadable entry.typeSpelling?).map group.entryEvent

/-- The warnings about storage keys that a preference shares with an earlier one. -/
def sharingEvents (group : Group) : List LogEvent :=
  (Preference.sharedKeysAfter [] group.preferences).map .keyShared

/-- What is logged of a group, as far as it comes. -/
def events (settings : Settings) (group : Group) : List LogEvent :=
  group.entryEvents ++ group.sharingEvents ++
    match group.resolve with
    | .error _ => []
    | .ok resolved =>
      .groupResolved group.name resolved.preferences.length ::
        match classSource? settings resolved with
        | none => []
        | some source =>
          [.classGenerated group.name resolved.preferences.length source.utf8ByteSize]

/-- What is logged of a group that follows groups with the given names. -/
def eventsAfter (settings : Settings) (earlier : List String) (group : Group) : List LogEvent :=
  if group.name ∈ earlier then [] else group.events settings

section

variable {settings : Settings} {group : Group} {file : SourceFile}

/-! ## One group -/

theorem resolutionLog_eq (group : Group) :
    group.resolutionLog = group.entryEvents ++ group.sharingEvents := by
  have hkept : group.entries.filter Entry.hasKnownType =
      group.entries.filter fun entry => IsReadable entry.typeSpelling? :=
    List.filter_congr fun entry _ => Bool.eq_iff_iff.mpr <| by
      rw [Entry.hasKnownType_iff, decide_eq_true_iff]
  have hentries : (group.preferences.map fun preference =>
      LogEvent.preferenceResolved preference.field preference.key preference.valueType) =
        group.entryEvents := by
    rw [preferences, hkept, List.map_map]
    rfl
  rw [resolutionLog, hentries, Preference.sharedKeys_eq_sharedKeysAfter, sharingEvents]

theorem log_generate (settings : Settings) (group : Group) :
    (group.generate settings).log = group.events settings := by
  have hlog : (group.generate settings).log = group.resolutionLog ++
      (match group.resolve with
        | .error error => ⟨[], .error (.resolution error)⟩
        | .ok resolved => (resolved.generate settings).after
          [.groupResolved resolved.name resolved.preferences.length] : Run SourceFile).log := rfl
  rw [hlog, resolutionLog_eq, events]
  cases hresolve : group.resolve with
  | error error => rfl
  | ok resolved =>
    simp only [PreferenceGroup.generate, name_of_resolve hresolve]
    cases classSource? settings resolved <;> rfl

/-- Of the events of a group only that of its class tells a length. -/
theorem sum_bytes_events (hclass : group.HasClass settings file) :
    ((group.events settings).map LogEvent.bytes).sum = file.source.utf8ByteSize := by
  obtain ⟨hname, resolved, hresolve, rfl⟩ := hclass
  have hentries : (group.entryEvents.map LogEvent.bytes).sum = 0 := by
    simp [entryEvents, entryEvent, LogEvent.bytes, Function.comp_def]
  have hsharing : (group.sharingEvents.map LogEvent.bytes).sum = 0 := by
    simp [sharingEvents, LogEvent.bytes, Function.comp_def]
  have hsource : classSource? settings resolved = some (classText settings resolved) := by
    rw [classSource?, name_of_resolve hresolve, if_pos hname]
  rw [events, hresolve, List.map_append, List.map_append, List.sum_append, List.sum_append,
    hentries, hsharing]
  simp [hsource, LogEvent.bytes]

end

end Group

/-! ## Runs over groups -/

section

variable {settings : Settings} {earlier : List String} {files : List SourceFile}

/-- The groups after one that ends the run are not logged. -/
theorem log_generateGroups_cons (group : Group) (rest : List Group) :
    (generateGroups settings earlier (group :: rest)).log =
      group.eventsAfter settings earlier ++
        match group.classAfter settings earlier with
        | .error _ => []
        | .ok _ => (generateGroups settings (group.name :: earlier) rest).log := by
  rw [generateGroups, Group.eventsAfter, Group.classAfter]
  split
  next => rfl
  next =>
    rw [← Group.log_generate]
    cases hresult : (group.generate settings).result with
    | error error => simp [hresult]
    | ok file => simp [hresult, Run.after, Run.map]

/-- While all groups have a class, each of them has all its events. -/
theorem log_generateGroups_append {before : List Group}
    (hbefore : (generateGroups settings earlier before).result = .ok files) (more : List Group) :
    (generateGroups settings earlier (before ++ more)).log =
      before.flatMap (Group.events settings) ++
        (generateGroups settings ((before.map Group.name).reverse ++ earlier) more).log := by
  induction before generalizing earlier files with
  | nil => rfl
  | cons group rest ih =>
    rw [result_generateGroups_cons] at hbefore
    obtain ⟨file, hfile, hrest⟩ := bind_eq_ok_iff.mp hbefore
    obtain ⟨others, hothers, -⟩ := map_eq_ok_iff.mp hrest
    have hnew := (Group.classAfter_eq_ok_iff.mp hfile).1
    rw [List.cons_append, log_generateGroups_cons, hfile, ih hothers, Group.eventsAfter,
      if_neg hnew, List.flatMap_cons, List.append_assoc, List.map_cons, List.reverse_cons,
      List.append_assoc]
    rfl

theorem log_generateGroups_of_ok {groups : List Group}
    (hfiles : (generateGroups settings earlier groups).result = .ok files) :
    (generateGroups settings earlier groups).log = groups.flatMap (Group.events settings) := by
  have hlog := log_generateGroups_append hfiles []
  rwa [List.append_nil, generateGroups, List.append_nil] at hlog

/-- The failing group is the last one that is logged. -/
theorem log_generateGroups_of_failsAfter {before : List Group} {group : Group}
    {error : GenerationError} (hbefore : (generateGroups settings [] before).result = .ok files)
    (hfails : group.FailsAfter (before.map Group.name) error) (after : List Group) :
    (generateGroups settings [] (before ++ group :: after)).log =
      before.flatMap (Group.events settings) ++
        group.eventsAfter settings (before.map Group.name) := by
  have hnames (name : String) :
      name ∈ before.map Group.name ↔ name ∈ (before.map Group.name).reverse ++ [] := by simp
  have hclass : group.classAfter settings ((before.map Group.name).reverse ++ []) = .error error :=
    ((Group.failsAfter_congr hnames).mp hfails).classAfter_eq
  rw [log_generateGroups_append hbefore, log_generateGroups_cons, hclass, Group.eventsAfter,
    Group.eventsAfter, List.append_nil]
  simp only [hnames]

/-! ## Lengths -/

theorem sum_bytes_log {groups : List Group}
    (hclasses : List.Forall₂ (Group.HasClass settings) groups files) :
    ((groups.flatMap (Group.events settings)).map LogEvent.bytes).sum =
      (files.map fun file => file.source.utf8ByteSize).sum := by
  induction hclasses with
  | nil => rfl
  | cons hclass _ ih =>
    rw [List.flatMap_cons, List.map_append, List.sum_append, ih, Group.sum_bytes_events hclass,
      List.map_cons, List.sum_cons]

/-- A line break has one byte, and there is one less than there are texts. -/
theorem utf8ByteSize_intercalate (first : String) (rest : List String) :
    ("\n".intercalate (first :: rest)).utf8ByteSize =
      ((first :: rest).map String.utf8ByteSize).sum + rest.length := by
  induction rest generalizing first with
  | nil => simp
  | cons next rest ih =>
    have hbreak : "\n".utf8ByteSize = 1 := rfl
    rw [String.intercalate_cons_cons, String.utf8ByteSize_append, String.utf8ByteSize_append, ih,
      hbreak, List.map_cons (l := next :: rest), List.sum_cons, List.length_cons]
    omega

end

/-! ## Runs over documents -/

theorem readDeclarations_ne_nil {document : String} {groups : List Group}
    (hread : readDeclarations document = .ok groups) : groups ≠ [] := by
  obtain ⟨_, hrun, _, hfinish⟩ := groupsOfStream_eq_ok_iff.mp hread
  obtain ⟨_, hsome, rfl⟩ := ((standsIn_start.after hrun).finish_eq_ok_iff _ _).mp hfinish
  exact hsome

section

variable {settings : Settings} {document : String} {groups : List Group}

theorem log_generateText_of_fault {fault : DeclarationError}
    (hread : readDeclarations document = .error fault) :
    (generateText settings document).log = [] := by
  rw [generateText, generateFiles, hread]
  rfl

theorem log_generateText_of_read (hread : readDeclarations document = .ok groups) :
    (generateText settings document).log =
      .documentRead groups.length :: (generateGroups settings [] groups).log := by
  rw [generateText, generateFiles, hread]
  rfl

/-- The line breaks are the bytes of the text that no event tells of. -/
theorem sum_bytes_add_length {files : List SourceFile} (hsome : groups ≠ [])
    (hclasses : List.Forall₂ (Group.HasClass settings) groups files) :
    ((groups.flatMap (Group.events settings)).map LogEvent.bytes).sum + groups.length =
      (joinSources files).utf8ByteSize + 1 := by
  rw [sum_bytes_log hclasses, hclasses.length_eq,
    joinSources_eq_intercalate (source_ne_empty_of_mem hclasses)]
  cases files with
  | nil => exact absurd (List.forall₂_nil_right_iff.mp hclasses) hsome
  | cons file rest =>
    rw [List.map_cons, List.map_cons, utf8ByteSize_intercalate, List.map_cons, List.map_map,
      List.length_map, List.length_cons]
    rfl

/-- After a success all groups are logged. -/
theorem log_generateText_of_ok {text : String} (hread : readDeclarations document = .ok groups)
    (htext : (generateText settings document).result = .ok text) :
    (generateText settings document).log =
        .documentRead groups.length :: groups.flatMap (Group.events settings) ∧
      ((generateText settings document).log.map LogEvent.bytes).sum + (groups.length - 1) =
        text.utf8ByteSize := by
  obtain ⟨files, hfiles, rfl⟩ := generateText_eq_ok_iff.mp htext
  obtain ⟨_, hother, hgroups⟩ := generateFiles_eq_ok_iff.mp hfiles
  obtain rfl := Except.ok.inj (hread.symm.trans hother)
  obtain ⟨_, _, hclasses⟩ := generateGroups_eq_ok_iff.mp hgroups
  have hlog : (generateText settings document).log =
      .documentRead groups.length :: groups.flatMap (Group.events settings) := by
    rw [log_generateText_of_read hread, log_generateGroups_of_ok hgroups]
  refine ⟨hlog, ?_⟩
  have hsome := readDeclarations_ne_nil hread
  have hpositive : 0 < groups.length := List.length_pos_iff.mpr hsome
  have hsum := sum_bytes_add_length hsome hclasses
  have hbytes : (LogEvent.documentRead groups.length).bytes = 0 := rfl
  rw [hlog, List.map_cons, List.sum_cons, hbytes]
  omega

/-- After an error the failing group is the last one that is logged. -/
theorem log_generateText_of_error {error : GenerationError}
    (hread : readDeclarations document = .ok groups)
    (herror : (generateText settings document).result = .error error) :
    ∃ before group after, groups = before ++ group :: after ∧
      (before.map Group.name).Nodup ∧ (∀ other ∈ before, other.IsGenerable) ∧
      group.FailsAfter (before.map Group.name) error ∧
      (generateText settings document).log =
        .documentRead groups.length :: (before.flatMap (Group.events settings) ++
          group.eventsAfter settings (before.map Group.name)) := by
  rcases generateFiles_eq_error_iff.mp (generateText_eq_error_iff.mp herror) with
    ⟨_, hfault, _⟩ | ⟨_, hother, hgroups⟩
  · cases hread.symm.trans hfault
  obtain rfl := Except.ok.inj (hread.symm.trans hother)
  obtain ⟨before, group, after, rfl, hbefore, hfails⟩ := generateGroups_eq_error_iff.mp hgroups
  obtain ⟨hdistinct, hgenerable⟩ := exists_generateGroups_eq_ok_iff.mp hbefore
  obtain ⟨files, hfiles⟩ := hbefore
  rw [List.append_nil] at hfails
  refine ⟨before, group, after, rfl, hdistinct, hgenerable, hfails, ?_⟩
  rw [log_generateText_of_read hread, log_generateGroups_of_failsAfter hfiles hfails]

end

/-- A document that cannot be read leaves an empty log. Otherwise the log begins with the number
of the groups, and the events of the groups follow. After a success these are all groups, and with
one line break less than there are groups, the lengths in the log add up to that of the text.
After an error the last group is the one that fails, and it is logged as far as it comes. -/
theorem log_generateText (settings : Settings) (document : String) :
    match readDeclarations document with
    | .error _ => (generateText settings document).log = []
    | .ok groups =>
      match (generateText settings document).result with
      | .ok text =>
        (generateText settings document).log =
            .documentRead groups.length :: groups.flatMap (Group.events settings) ∧
          ((generateText settings document).log.map LogEvent.bytes).sum + (groups.length - 1) =
            text.utf8ByteSize
      | .error error => ∃ before group after, groups = before ++ group :: after ∧
        (before.map Group.name).Nodup ∧ (∀ other ∈ before, other.IsGenerable) ∧
        group.FailsAfter (before.map Group.name) error ∧
        (generateText settings document).log =
          .documentRead groups.length :: (before.flatMap (Group.events settings) ++
            group.eventsAfter settings (before.map Group.name)) := by
  split
  next fault hread => exact log_generateText_of_fault hread
  next groups hread =>
    split
    next text htext => exact log_generateText_of_ok hread htext
    next error herror => exact log_generateText_of_error hread herror

/-- Two groups, the second of which has entries with one storage key and an entry with an unknown
type. -/
def faultyDocument : String :=
  "<preferences name=\"Player\"/><preferences name=\"Sound\"><entry name=\"volume\"/>" ++
    "<entry name=\"level\" key=\"volume\" type=\"long\"/><entry name=\"mute\" type=\"flag\"/>" ++
    "</preferences>"

example : (generateText {} faultyDocument).log = [.documentRead 2, .groupResolved "Player" 0,
    .classGenerated "Player" 0 193, .preferenceResolved "volume" "volume" .string,
    .preferenceResolved "level" "volume" .long, .keyShared ⟨"volume", "volume", "level"⟩] := by
  have hread : readDeclarations faultyDocument = .ok
      [{ name := "Player" }, { name := "Sound", entries := [{ name := "volume" },
        { name := "level", key? := some "volume", typeSpelling? := some "long" },
        { name := "mute", typeSpelling? := some "flag" }] }] := by
    unfold readDeclarations Markup.readEvents faultyDocument
    rw [String.toList_append, String.toList_append, String.toList_ofList, String.toList_ofList,
      String.toList_ofList]
    decide +kernel
  rw [log_generateText_of_read hread]
  rfl

end PrefAccessors
