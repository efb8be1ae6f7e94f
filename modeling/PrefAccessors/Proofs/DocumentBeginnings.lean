import PrefAccessors.Proofs.OpenElements
import PrefAccessors.Proofs.TextBeginnings
import PrefAccessors.Proofs.WrittenDeclarations

/-! # The beginning of a document

The events of a text that is without fault by itself are the first events of every
document that begins with it; only plain text at its end may go on. A document that
is cut off is therefore read up to the cut as the whole document is. It is rejected
when the cut is inside markup, inside a group or before the end of the first group,
and otherwise it declares the groups that are complete at the cut.
-/

namespace PrefAccessors

open Markup

/-! ## Events of a beginning -/

/-- A stream that goes on with another one, unless it ends in a fault. -/
def Markup.EventStream.andThen (stream next : EventStream) : EventStream :=
  match stream.fault? with
  | some _ => stream
  | none => next.prepend stream.events

theorem Markup.EventStream.andThen_cons (event : Event) (stream next : EventStream) :
    (stream.cons event).andThen next = (stream.andThen next).cons event := by
  obtain ⟨events, fault?⟩ := stream
  cases fault? <;> rfl

theorem Markup.EventStream.andThen_of_none {stream : EventStream} (hnone : stream.fault? = none)
    (next : EventStream) : stream.andThen next = next.prepend stream.events := by
  rw [andThen, hnone]

theorem Markup.EventStream.fault?_andThen {stream next : EventStream} :
    (stream.andThen next).fault? = none ↔ stream.fault? = none ∧ next.fault? = none := by
  obtain ⟨events, fault?⟩ := stream
  cases fault? <;> simp [andThen, prepend]

section

variable (tags : List Tag)

/-- Events go on as the elements require that are open behind the first lexemes. -/
theorem Markup.eventsWithin_append (first second : List Lexeme) (fault? : Option Fault) :
    let stream := eventsWithin (tags.map Tag.name) none first
    eventsWithin (tags.map Tag.name) fault? (first ++ second) =
      stream.andThen (eventsWithin ((stream.events.foldl openTagsAfter tags).map Tag.name) fault?
        second) := by
  induction first generalizing tags with
  | nil => rfl
  | cons lexeme rest ih =>
    cases lexeme with
    | startTag content =>
      refine (congrArg (EventStream.cons _) (ih (Tag.ofContent content :: tags))).trans ?_
      rw [← EventStream.andThen_cons]
      rfl
    | endTag content =>
      cases tags with
      | nil => rfl
      | cons tag outer =>
        -- An end tag that does not fit hides all lexemes behind it, the second ones too.
        simp only [List.map_cons, List.cons_append, eventsWithin]
        split
        next => rw [ih outer, ← EventStream.andThen_cons]; rfl
        next => rfl
    | _ =>
      refine (congrArg (EventStream.cons _) (ih tags)).trans ?_
      rw [← EventStream.andThen_cons]
      rfl

/-- A fault of the lexemes is a fault of the events, if only for a closing tag that hides it. -/
theorem Markup.fault?_of_eventsOfText {text : List Char}
    (hnone : (eventsOfText (tags.map Tag.name) text).fault? = none) : (lex text).fault? = none := by
  have happend := eventsWithin_append tags (lex text).lexemes [] (lex text).fault?
  rw [List.append_nil] at happend
  rw [eventsOfText, happend] at hnone
  exact (EventStream.fault?_andThen.mp hnone).2

/-- Where the lexemes of a text stand before those of what follows it, so do its events. -/
theorem Markup.eventsOfText_append {text more : List Char} (hfault : (lex text).fault? = none)
    (hlex : lex (text ++ more) =
      ⟨(lex text).lexemes ++ (lex more).lexemes, (lex more).fault?⟩) :
    let stream := eventsOfText (tags.map Tag.name) text
    eventsOfText (tags.map Tag.name) (text ++ more) =
      stream.andThen (eventsOfText ((stream.events.foldl openTagsAfter tags).map Tag.name) more) := by
  have hstream : eventsOfText (tags.map Tag.name) text =
      eventsWithin (tags.map Tag.name) none (lex text).lexemes := by
    rw [eventsOfText, hfault]
  rw [hstream, eventsOfText, hlex]
  exact eventsWithin_append tags _ _ _

end

/-- The events of plain text. -/
theorem Markup.eventsOfText_of_plain {run : List Char} (hrun : ∀ char ∈ run, isPlain char)
    (openNames : List String) : ∀ event ∈ (eventsOfText openNames run).events,
      ∃ content, event = .text content := by
  by_cases hne : run = []
  · rw [hne]
    exact nofun
  · have hlex : lex run = ⟨[.text run], none⟩ := by simpa using lex_of_plain hrun hne []
    rw [eventsOfText, hlex]
    intro event hevent
    exact ⟨_, List.mem_singleton.mp hevent⟩

/-- The events of a text without fault are first events of every text that begins with it, up to
plain text at its end. -/
theorem Markup.exists_common_events (text : List Char)
    (hnone : (eventsOfText [] text).fault? = none) (more : List Char) :
    ∃ common run later, (eventsOfText [] text).events = common ++ run ∧
      (∀ event ∈ run, ∃ content, event = .text content) ∧
      (eventsOfText [] (text ++ more)).events = common ++ later := by
  obtain ⟨closed, run, rfl, hclosed, hrun⟩ := exists_closed (fault?_of_eventsOfText [] hnone)
  let stream := eventsOfText [] closed
  let names := (openTags stream.events).map Tag.name
  have happend (rest : List Char) : eventsOfText [] (closed ++ rest) =
      stream.andThen (eventsOfText names rest) :=
    eventsOfText_append [] hclosed.fault?_eq_none (hclosed rest)
  have hstream : stream.fault? = none := by
    rw [happend run] at hnone
    exact (EventStream.fault?_andThen.mp hnone).1
  refine ⟨stream.events, (eventsOfText names run).events, (eventsOfText names (run ++ more)).events,
    ?_, eventsOfText_of_plain hrun names, ?_⟩
  · rw [happend, EventStream.andThen_of_none hstream]
    rfl
  · rw [List.append_assoc, happend, EventStream.andThen_of_none hstream]
    rfl

theorem Markup.dropOrderMark_cons {char : Char} (hmark : char ≠ '\uFEFF') (rest : List Char) :
    dropOrderMark (char :: rest) = char :: rest := by
  unfold dropOrderMark
  split
  next heq => exact absurd (List.cons.inj heq).1 hmark
  next => rfl

theorem Markup.dropOrderMark_append {text : List Char} (hne : text ≠ []) (more : List Char) :
    dropOrderMark (text ++ more) = dropOrderMark text ++ more := by
  obtain ⟨first, rest, rfl⟩ := List.exists_cons_of_ne_nil hne
  by_cases hmark : first = '\uFEFF'
  · rw [hmark]
    rfl
  · rw [List.cons_append, dropOrderMark_cons hmark, dropOrderMark_cons hmark, List.cons_append]

/-- Markup begins with no byte order mark, so none is dropped behind a text. -/
theorem Markup.dropOrderMark_append_of_markup {char : Char} (hmarkup : isPlain char = false)
    (text more : List Char) :
    dropOrderMark (text ++ char :: more) = dropOrderMark text ++ char :: more := by
  by_cases hne : text = []
  · have hmark : char ≠ '\uFEFF' := by
      rintro rfl
      exact absurd hmarkup (by decide)
    rw [hne, List.nil_append, dropOrderMark_cons hmark]
    rfl
  · exact dropOrderMark_append hne _

/-! ## Reading on -/

/-- The groups of a stream that is read on from a place in a document. -/
def Reading.resume (reading : Reading) (stream : EventStream) :
    Except DeclarationError (List Group) :=
  stream.events.foldlM Reading.step reading >>= fun final =>
    match stream.fault? with
    | some fault => .error (.markup fault)
    | none => final.finish

theorem groupsOfStream_eq_resume (stream : EventStream) :
    groupsOfStream stream = Reading.start.resume stream := by
  unfold groupsOfStream Reading.resume
  cases stream.events.foldlM Reading.step Reading.start <;> rfl

theorem Reading.resume_cons (reading : Reading) (event : Event) (stream : EventStream) :
    reading.resume (stream.cons event) =
      reading.step event >>= fun next => next.resume stream := by
  simp only [resume, EventStream.cons, List.foldlM_cons, bind_assoc]

theorem Reading.resume_prepend (reading : Reading) (events : List Event) (stream : EventStream) :
    reading.resume (stream.prepend events) =
      events.foldlM Reading.step reading >>= fun next => next.resume stream := by
  simp only [resume, EventStream.prepend, List.foldlM_append, bind_assoc]

/-- A document is read up to markup without fault, and from there on with the elements that are
then open. -/
theorem readDeclarations_append {before : String}
    (hfault : (readEvents before).fault? = none) {char : Char} (hmarkup : isPlain char = false)
    {text : String} (hhead : text.toList.head? = some char) :
    readDeclarations (before ++ text) =
      (readEvents before).events.foldlM Reading.step Reading.start >>= fun reading =>
        reading.resume
          (eventsOfText ((openTags (readEvents before).events).map Tag.name) text.toList) := by
  obtain ⟨more, htext⟩ := List.head?_eq_some_iff.mp hhead
  have hstream : readEvents (before ++ text) =
      eventsOfText [] (dropOrderMark before.toList ++ char :: more) := by
    rw [readEvents, String.toList_append, htext, dropOrderMark_append_of_markup hmarkup]
    rfl
  have hlex := fault?_of_eventsOfText [] hfault
  have happend := eventsOfText_append [] hlex (lex_append_of_markup hlex hmarkup more)
  rw [readDeclarations, groupsOfStream_eq_resume, hstream]
  refine (congrArg Reading.start.resume happend).trans ?_
  refine (congrArg Reading.start.resume (EventStream.andThen_of_none hfault _)).trans ?_
  rw [Reading.resume_prepend, ← htext]
  rfl

/-! ## Documents that are cut off -/

/-- Plain text never fails, and never completes a group. -/
theorem Reading.exists_step_text (reading : Reading) (content : String) :
    ∃ place, reading.step (.text content) = .ok ⟨reading.groups, place⟩ := by
  obtain ⟨groups, place⟩ := reading
  cases place with
  | outside => exact ⟨_, rfl⟩
  | inGroup group ignored => cases ignored <;> exact ⟨_, rfl⟩
  | inEntry group entry written ignored => cases ignored <;> exact ⟨_, rfl⟩

theorem Reading.exists_run_texts {run : List Event}
    (hrun : ∀ event ∈ run, ∃ content, event = .text content) (reading : Reading) :
    ∃ place, run.foldlM Reading.step reading = .ok ⟨reading.groups, place⟩ := by
  induction run generalizing reading with
  | nil => exact ⟨reading.place, rfl⟩
  | cons event rest ih =>
    rw [List.forall_mem_cons] at hrun
    obtain ⟨⟨content, rfl⟩, hrest⟩ := hrun
    obtain ⟨place, hstep⟩ := reading.exists_step_text content
    obtain ⟨final, hfinal⟩ := ih hrest ⟨reading.groups, place⟩
    exact ⟨final, by rw [List.foldlM_cons, hstep]; exact hfinal⟩

/-- The groups of a stream that is read without error and without fault. -/
theorem groupsOfStream_eq_ok_iff {stream : EventStream} {groups : List Group} :
    groupsOfStream stream = .ok groups ↔ ∃ final, stream.events.foldlM Reading.step Reading.start =
      .ok final ∧ stream.fault? = none ∧ final.finish = .ok groups := by
  unfold groupsOfStream
  cases stream.events.foldlM Reading.step Reading.start with
  | error error => simp
  | ok final => cases stream.fault? <;> simp

/-- Up to the cut, a document is read as the whole is, and the groups that are complete there are
the first ones of the whole. -/
theorem exists_run_of_truncated {kept lost : String} {groups : List Group}
    (haccepted : readDeclarations (kept ++ lost) = .ok groups)
    (hfault : (readEvents kept).fault? = none) :
    ∃ final, (readEvents kept).events.foldlM Reading.step Reading.start = .ok final ∧
      final.groups = groups.take (endedGroups [] (readEvents kept).events) := by
  by_cases hempty : kept.toList = []
  · have hevents : readEvents kept = ⟨[], none⟩ := by
      rw [readEvents, hempty]
      rfl
    rw [hevents]
    exact ⟨Reading.start, rfl, rfl⟩
  obtain ⟨common, run, later, hkept, hrun, hwhole⟩ :=
    exists_common_events (dropOrderMark kept.toList) hfault lost.toList
  obtain ⟨last, hlast, _, hfinish⟩ := groupsOfStream_eq_ok_iff.mp haccepted
  have hevents : (readEvents (kept ++ lost)).events = common ++ later := by
    rw [readEvents, String.toList_append, dropOrderMark_append hempty]
    exact hwhole
  rw [hevents, List.foldlM_append] at hlast
  obtain ⟨middle, hmiddle, hlater⟩ := bind_eq_ok_iff.mp hlast
  -- What may differ at the cut is plain text, which completes no group.
  obtain ⟨place, htexts⟩ := middle.exists_run_texts hrun
  have hread : (readEvents kept).events.foldlM Reading.step Reading.start =
      .ok ⟨middle.groups, place⟩ := by
    change (eventsOfText [] _).events.foldlM _ _ = _
    rw [hkept, List.foldlM_append, hmiddle]
    exact htexts
  have hstands := standsIn_start.after hmiddle
  obtain ⟨ended, hended, hlength⟩ := standsIn_start.exists_ended hread
  obtain ⟨more, hmore, _⟩ := hstands.exists_ended hlater
  obtain ⟨_, _, rfl⟩ := ((hstands.after hlater).finish_eq_ok_iff _ _).mp hfinish
  refine ⟨_, hread, ?_⟩
  rw [hmore, ← hlength, show middle.groups = ended from hended, List.take_left]

/-- A document that is cut off is accepted exactly if the cut is neither inside markup nor inside
a group, and behind the end of the first group. It then declares the groups that are complete at
the cut, whatever other elements are open there. -/
theorem readDeclarations_of_truncated {kept lost : String} {groups : List Group}
    (haccepted : readDeclarations (kept ++ lost) = .ok groups) (shorter : List Group) :
    readDeclarations kept = .ok shorter ↔
      (readEvents kept).fault? = none ∧ IsGroupFree (openTags (readEvents kept).events) ∧
        endedGroups [] (readEvents kept).events ≠ 0 ∧
        shorter = groups.take (endedGroups [] (readEvents kept).events) := by
  rw [readDeclarations, groupsOfStream_eq_ok_iff]
  by_cases hfault : (readEvents kept).fault? = none
  · obtain ⟨final, hrun, hgroups⟩ := exists_run_of_truncated haccepted hfault
    obtain ⟨ended, hended, hlength⟩ := standsIn_start.exists_ended hrun
    have hsome : final.groups ≠ [] ↔ endedGroups [] (readEvents kept).events ≠ 0 := by
      rw [← hlength, hended]
      exact List.length_eq_zero_iff.not.symm
    have hfinish := (standsIn_start.after hrun).finish_eq_ok_iff final.groups shorter
    rw [← hgroups, ← hsome]
    constructor
    · rintro ⟨_, hother, _, hend⟩
      obtain rfl := Except.ok.inj (hrun.symm.trans hother)
      exact ⟨hfault, hfinish.mp hend⟩
    · rintro ⟨_, hend⟩
      exact ⟨final, hrun, hfault, hfinish.mpr hend⟩
  · constructor
    · rintro ⟨_, _, hnone, _⟩
      exact absurd hnone hfault
    · rintro ⟨hnone, _⟩
      exact absurd hnone hfault

/-- The beginning of a document with two groups, behind the first of them. -/
def documentStart : String := "<declarations><preferences name=\"Display\"/>"

/-- The second group of the document, up to its end tag. -/
def openAccount : String := "<preferences name=\"Account\"><entry name=\"id\"/>"

def documentEnd : String := "</preferences></declarations>"

theorem readEvents_documentStart : readEvents documentStart =
    ⟨[.startTag ⟨"declarations", []⟩, .emptyTag ⟨"preferences", [⟨"name", "Display"⟩]⟩], none⟩ := by
  unfold readEvents documentStart
  -- A literal is made of its characters, so that no bytes have to be decoded.
  rw [String.toList_ofList]
  rfl

theorem readEvents_openDocument : readEvents (documentStart ++ openAccount) =
    ⟨[.startTag ⟨"declarations", []⟩, .emptyTag ⟨"preferences", [⟨"name", "Display"⟩]⟩,
      .startTag ⟨"preferences", [⟨"name", "Account"⟩]⟩, .emptyTag ⟨"entry", [⟨"name", "id"⟩]⟩],
      none⟩ := by
  unfold readEvents documentStart openAccount
  rw [String.toList_append, String.toList_ofList, String.toList_ofList]
  rfl

theorem readEvents_wholeDocument : readEvents (documentStart ++ (openAccount ++ documentEnd)) =
    ⟨forestEvents [.element ⟨"declarations", []⟩ [
      .empty ⟨"preferences", [⟨"name", "Display"⟩]⟩,
      .element ⟨"preferences", [⟨"name", "Account"⟩]⟩ [.empty ⟨"entry", [⟨"name", "id"⟩]⟩]]],
      none⟩ := by
  unfold readEvents documentStart openAccount documentEnd
  rw [String.toList_append, String.toList_append, String.toList_ofList, String.toList_ofList,
    String.toList_ofList]
  rfl

theorem readDeclarations_of_documentStart :
    readDeclarations (documentStart ++ (openAccount ++ documentEnd)) =
        .ok [{ name := "Display" }, { name := "Account", entries := [{ name := "id" }] }] ∧
      readDeclarations documentStart = .ok [{ name := "Display" }] ∧
      ∀ shorter, readDeclarations (documentStart ++ openAccount) ≠ .ok shorter := by
  have haccepted : readDeclarations (documentStart ++ (openAccount ++ documentEnd)) =
      .ok [{ name := "Display" }, { name := "Account", entries := [{ name := "id" }] }] := by
    rw [readDeclarations, readEvents_wholeDocument]
    rfl
  refine ⟨haccepted, ?_, ?_⟩
  · rw [readDeclarations_of_truncated haccepted, readEvents_documentStart]
    decide
  · rw [← String.append_assoc] at haccepted
    intro shorter hshorter
    obtain ⟨_, hfree, _⟩ := (readDeclarations_of_truncated haccepted shorter).mp hshorter
    rw [readEvents_openDocument] at hfree
    exact absurd hfree (by decide)

/-- A document of one root element that is accepted, although it is cut off inside the root. The
groups behind the cut are lost without an error. -/
theorem readDeclarations_loses_account :
    readEvents (documentStart ++ (openAccount ++ documentEnd)) =
        ⟨forestEvents [.element ⟨"declarations", []⟩ [
          .empty ⟨"preferences", [⟨"name", "Display"⟩]⟩,
          .element ⟨"preferences", [⟨"name", "Account"⟩]⟩ [.empty ⟨"entry", [⟨"name", "id"⟩]⟩]]],
          none⟩ ∧
      readDeclarations (documentStart ++ (openAccount ++ documentEnd)) =
        .ok [{ name := "Display" }, { name := "Account", entries := [{ name := "id" }] }] ∧
      openTags (readEvents documentStart).events = [⟨"declarations", []⟩] ∧
      readDeclarations documentStart = .ok [{ name := "Display" }] := by
  refine ⟨readEvents_wholeDocument, ?_, ?_, ?_⟩
  · rw [readDeclarations, readEvents_wholeDocument]
    rfl
  · rw [readEvents_documentStart]
    rfl
  · rw [readDeclarations, readEvents_documentStart]
    rfl

end PrefAccessors
