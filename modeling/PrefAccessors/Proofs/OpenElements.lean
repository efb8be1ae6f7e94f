import PrefAccessors.Declaration.Forest
import PrefAccessors.Proofs.Sequencing

/-! # Open elements

Which elements are open after some events is told by the tags alone. It decides
what the next event means: the outermost open `preferences` element is a group, its
children of the right name are entries, and what is further inside has no meaning.
The place that a reading has reached always agrees with the open elements, however
deep they are. A document that ends while a group is open is therefore never
accepted, and the error names that group.
-/

namespace PrefAccessors

open Markup

/-! ## The meaning of a position -/

/-- The tags of the open elements after an event, innermost first. -/
def Markup.openTagsAfter (tags : List Tag) : Event → List Tag
  | .startTag tag => tag :: tags
  | .endTag => tags.tail
  | _ => tags

/-- The tags of the elements that events leave open, innermost first. -/
def Markup.openTags (events : List Event) : List Tag := events.foldl openTagsAfter []

/-- No group is open, so a `preferences` element is one. -/
def IsGroupFree (tags : List Tag) : Prop := ∀ tag ∈ tags, tag.name ≠ groupElement

/-- The innermost open element is a group. -/
inductive IsGroupContent : List Tag → Prop
  | intro {tag : Tag} {outer : List Tag} (hname : tag.name = groupElement)
    (houter : IsGroupFree outer) : IsGroupContent (tag :: outer)

/-- The innermost open element is an entry of a group. -/
inductive IsEntryContent : List Tag → Prop
  | intro {tag : Tag} {outer : List Tag} (hname : tag.name = entryElement)
    (houter : IsGroupContent outer) : IsEntryContent (tag :: outer)

instance (tags : List Tag) : Decidable (IsGroupFree tags) :=
  inferInstanceAs (Decidable (∀ tag ∈ tags, tag.name ≠ groupElement))

instance : (tags : List Tag) → Decidable (IsGroupContent tags)
  | [] => .isFalse nofun
  | tag :: outer => decidable_of_iff (tag.name = groupElement ∧ IsGroupFree outer)
    ⟨fun ⟨hname, houter⟩ => .intro hname houter, fun (.intro hname houter) => ⟨hname, houter⟩⟩

instance : (tags : List Tag) → Decidable (IsEntryContent tags)
  | [] => .isFalse nofun
  | tag :: outer => decidable_of_iff (tag.name = entryElement ∧ IsGroupContent outer)
    ⟨fun ⟨hname, houter⟩ => .intro hname houter, fun (.intro hname houter) => ⟨hname, houter⟩⟩

/-- Whether what has a meaning in an event can be decoded: the attributes of groups and entries,
and the references in the content of entries. -/
def IsReadableAt (tags : List Tag) : Event → Prop
  | .startTag tag | .emptyTag tag =>
    (IsGroupFree tags → tag.name = groupElement → (groupOfAttributes tag.attributes).isOk) ∧
      (IsGroupContent tags → tag.name = entryElement → (entryOfAttributes tag.attributes).isOk)
  | .reference name => IsEntryContent tags → (resolveReference name.toList).isOk
  | _ => True

/-- All events can be decoded where they stand. -/
inductive AreReadable : List Tag → List Event → Prop
  | nil {tags : List Tag} : AreReadable tags []
  | cons {tags : List Tag} {event : Event} {rest : List Event} (hevent : IsReadableAt tags event)
    (hrest : AreReadable (openTagsAfter tags event) rest) : AreReadable tags (event :: rest)

theorem areReadable_cons_iff {tags : List Tag} {event : Event} {rest : List Event} :
    AreReadable tags (event :: rest) ↔
      IsReadableAt tags event ∧ AreReadable (openTagsAfter tags event) rest :=
  ⟨fun (.cons hevent hrest) => ⟨hevent, hrest⟩, fun ⟨hevent, hrest⟩ => .cons hevent hrest⟩

instance (tags : List Tag) : (event : Event) → Decidable (IsReadableAt tags event)
  | .startTag _ | .emptyTag _ => inferInstanceAs (Decidable (_ ∧ _))
  | .reference _ => inferInstanceAs (Decidable (_ → _))
  | .text _ | .characterData _ | .endTag | .ignorable => inferInstanceAs (Decidable True)

instance decidableAreReadable : (tags : List Tag) → (events : List Event) →
    Decidable (AreReadable tags events)
  | _, [] => .isTrue .nil
  | tags, event :: rest =>
    haveI := decidableAreReadable (openTagsAfter tags event) rest
    decidable_of_iff _ areReadable_cons_iff.symm

/-- Whether an event completes a group: an empty one, or the end of an open one. -/
def EndsGroup (tags : List Tag) : Event → Prop
  | .emptyTag tag => tag.name = groupElement ∧ IsGroupFree tags
  | .endTag => IsGroupContent tags
  | _ => False

instance (tags : List Tag) : (event : Event) → Decidable (EndsGroup tags event)
  | .emptyTag tag => inferInstanceAs (Decidable (tag.name = groupElement ∧ IsGroupFree tags))
  | .endTag => inferInstanceAs (Decidable (IsGroupContent tags))
  | .startTag _ | .text _ | .characterData _ | .reference _ | .ignorable =>
    inferInstanceAs (Decidable False)

/-- The number of groups that events complete. -/
def endedGroups (tags : List Tag) : List Event → Nat
  | [] => 0
  | event :: rest =>
    (if EndsGroup tags event then 1 else 0) + endedGroups (openTagsAfter tags event) rest

/-! ## The place of a reading -/

/-- A tag opens the element of a group, whose entries may not be complete. -/
structure OpensGroup (tag : Tag) (outer : List Tag) (group : Group) : Prop where
  named : tag.name = groupElement
  outermost : IsGroupFree outer
  declared : (groupOfAttributes tag.attributes).map Group.name = .ok group.name

/-- The place of a reading where some elements are open. The innermost of them can be ignored. -/
inductive StandsIn : List Tag → Place → Prop
  | outside {tags : List Tag} (hfree : IsGroupFree tags) : StandsIn tags .outside
  | inGroup {tag : Tag} {outer : List Tag} {group : Group} (inner : List Tag)
    (hopens : OpensGroup tag outer group) :
    StandsIn (inner ++ tag :: outer) (.inGroup group inner.length)
  | inEntry {element tag : Tag} {outer : List Tag} {group : Group} {entry : Entry}
    {content : String} (inner : List Tag) (hentry : element.name = entryElement)
    (hopens : OpensGroup tag outer group) :
    StandsIn (inner ++ element :: tag :: outer) (.inEntry group entry content inner.length)

section

variable {tags outer : List Tag} {tag element : Tag} {group : Group} {event : Event}
  {reading next : Reading}

theorem OpensGroup.isGroupContent (hopens : OpensGroup tag outer group) :
    IsGroupContent (tag :: outer) := ⟨hopens.named, hopens.outermost⟩

theorem OpensGroup.not_isGroupFree (hopens : OpensGroup tag outer group) (inner : List Tag) :
    ¬ IsGroupFree (inner ++ tag :: outer) :=
  fun hfree => hfree tag (by simp) hopens.named

/-- Inside an ignored element, the open elements change as their number does. -/
theorem exists_inner_after (first : Tag) (inner rest : List Tag) (event : Event) :
    ∃ deeper, openTagsAfter (first :: inner ++ rest) event = deeper ++ rest ∧
      deeper.length = ignoredAfter (inner.length + 1) event := by
  cases event with
  | startTag tag => exact ⟨tag :: first :: inner, rfl, rfl⟩
  | endTag => exact ⟨inner, rfl, rfl⟩
  | _ => exact ⟨first :: inner, rfl, rfl⟩

/-- A group does not end while something inside it is open. -/
theorem OpensGroup.not_endsGroup (hopens : OpensGroup tag outer group) (first : Tag)
    (inner : List Tag) (event : Event) : ¬ EndsGroup (first :: inner ++ tag :: outer) event := by
  cases event with
  | emptyTag other => exact fun hends => hopens.not_isGroupFree (first :: inner) hends.2
  | endTag => exact fun (.intro _ houter) => hopens.not_isGroupFree inner houter
  | _ => exact id

end

/-! ## One step -/

/-- What an event leads to that is read where some elements are open. -/
structure Follows (tags : List Tag) (groups : List Group) (event : Event) (next : Reading) :
    Prop where
  place : StandsIn (openTagsAfter tags event) next.place
  groups : ∃ ended, next.groups = groups ++ ended ∧
    ended.length = if EndsGroup tags event then 1 else 0

section

variable {tags outer : List Tag} {tag element : Tag} {groups : List Group} {group : Group}
  {entry : Entry} {content : String} {event : Event} {place : Place} {next : Reading}

theorem Follows.of_not_endsGroup (hnot : ¬ EndsGroup tags event)
    (hplace : StandsIn (openTagsAfter tags event) place) : Follows tags groups event ⟨groups, place⟩ where
  place := hplace
  groups := ⟨[], (List.append_nil groups).symm, by rw [if_neg hnot]; rfl⟩

theorem Follows.of_endsGroup (hends : EndsGroup tags event)
    (hplace : StandsIn (openTagsAfter tags event) place) :
    Follows tags groups event ⟨groups ++ [group], place⟩ where
  place := hplace
  groups := ⟨[group], rfl, by rw [if_pos hends]; rfl⟩

theorem follows_stepOutside (hfree : IsGroupFree tags)
    (hstep : Reading.stepOutside groups event = .ok next) : Follows tags groups event next := by
  cases event with
  | startTag tag =>
    simp only [Reading.stepOutside] at hstep
    split at hstep
    next hname =>
      obtain ⟨group, hgroup, rfl⟩ := map_eq_ok_iff.mp hstep
      exact .of_not_endsGroup id (.inGroup [] ⟨hname, hfree, by rw [hgroup]; rfl⟩)
    next hname =>
      obtain rfl := Except.ok.inj hstep
      exact .of_not_endsGroup id (.outside (List.forall_mem_cons.mpr ⟨hname, hfree⟩))
  | emptyTag tag =>
    simp only [Reading.stepOutside] at hstep
    split at hstep
    next hname =>
      obtain ⟨group, _, rfl⟩ := map_eq_ok_iff.mp hstep
      exact .of_endsGroup ⟨hname, hfree⟩ (.outside hfree)
    next hname =>
      obtain rfl := Except.ok.inj hstep
      exact .of_not_endsGroup (fun hends => hname hends.1) (.outside hfree)
  | endTag =>
    obtain rfl := Except.ok.inj hstep
    refine .of_not_endsGroup (fun hends => ?_)
      (.outside fun tag htag => hfree tag (List.mem_of_mem_tail htag))
    cases tags with
    | nil => cases hends
    | cons tag outer =>
      obtain ⟨hname, _⟩ := hends
      exact hfree tag List.mem_cons_self hname
  | _ =>
    obtain rfl := Except.ok.inj hstep
    exact .of_not_endsGroup id (.outside hfree)

theorem follows_stepInGroup (hopens : OpensGroup tag outer group)
    (hstep : Reading.stepInGroup groups group event = .ok next) :
    Follows (tag :: outer) groups event next := by
  cases event with
  | startTag other =>
    simp only [Reading.stepInGroup] at hstep
    split at hstep
    next hname =>
      obtain ⟨entry, _, rfl⟩ := map_eq_ok_iff.mp hstep
      exact .of_not_endsGroup id (.inEntry [] hname hopens)
    next =>
      obtain rfl := Except.ok.inj hstep
      exact .of_not_endsGroup id (.inGroup [other] hopens)
  | emptyTag other =>
    have hnot : ¬ EndsGroup (tag :: outer) (.emptyTag other) :=
      fun hends => hopens.not_isGroupFree [] hends.2
    simp only [Reading.stepInGroup] at hstep
    split at hstep
    next =>
      obtain ⟨entry, _, rfl⟩ := map_eq_ok_iff.mp hstep
      exact .of_not_endsGroup hnot (.inGroup [] ⟨hopens.named, hopens.outermost, hopens.declared⟩)
    next =>
      obtain rfl := Except.ok.inj hstep
      exact .of_not_endsGroup hnot (.inGroup [] hopens)
  | endTag =>
    obtain rfl := Except.ok.inj hstep
    exact .of_endsGroup hopens.isGroupContent (.outside hopens.outermost)
  | _ =>
    obtain rfl := Except.ok.inj hstep
    exact .of_not_endsGroup id (.inGroup [] hopens)

theorem follows_stepInEntry (hentry : element.name = entryElement)
    (hopens : OpensGroup tag outer group)
    (hstep : Reading.stepInEntry groups group entry content event = .ok next) :
    Follows (element :: tag :: outer) groups event next := by
  have hnot := hopens.not_endsGroup element [] event
  cases event with
  | startTag other =>
    obtain rfl := Except.ok.inj hstep
    exact .of_not_endsGroup hnot (.inEntry [other] hentry hopens)
  | reference name =>
    obtain ⟨char, _, rfl⟩ := map_eq_ok_iff.mp hstep
    exact .of_not_endsGroup hnot (.inEntry [] hentry hopens)
  | endTag =>
    obtain rfl := Except.ok.inj hstep
    exact .of_not_endsGroup hnot (.inGroup [] ⟨hopens.named, hopens.outermost, hopens.declared⟩)
  | _ =>
    obtain rfl := Except.ok.inj hstep
    exact .of_not_endsGroup hnot (.inEntry [] hentry hopens)

/-- A step keeps the place of a reading in agreement with the open elements, and completes a group
where one ends. -/
theorem StandsIn.follows (hstands : StandsIn tags place)
    (hstep : Reading.step ⟨groups, place⟩ event = .ok next) : Follows tags groups event next := by
  cases hstands with
  | outside hfree => exact follows_stepOutside hfree hstep
  | inGroup inner hopens =>
    cases inner with
    | nil => exact follows_stepInGroup hopens hstep
    | cons first inner =>
      obtain rfl := Except.ok.inj hstep
      obtain ⟨deeper, htags, hlength⟩ := exists_inner_after first inner (_ :: _) event
      refine .of_not_endsGroup (hopens.not_endsGroup first inner event) ?_
      rw [htags, ← hlength]
      exact .inGroup deeper hopens
  | inEntry inner hentry hopens =>
    cases inner with
    | nil => exact follows_stepInEntry hentry hopens hstep
    | cons first inner =>
      obtain rfl := Except.ok.inj hstep
      obtain ⟨deeper, htags, hlength⟩ := exists_inner_after first inner (_ :: _ :: _) event
      refine .of_not_endsGroup ?_ ?_
      · rw [List.append_cons]
        exact hopens.not_endsGroup first (inner ++ [_]) event
      · rw [htags, ← hlength]
        exact .inEntry deeper hentry hopens

/-- An event that can be decoded where it stands is read. -/
theorem StandsIn.exists_step (hstands : StandsIn tags place) (hreadable : IsReadableAt tags event) :
    ∃ next, Reading.step ⟨groups, place⟩ event = .ok next := by
  cases hstands with
  | outside hfree =>
    cases event with
    | startTag tag | emptyTag tag =>
      simp only [Reading.step, Reading.stepOutside]
      split
      next hname =>
        obtain ⟨group, hgroup⟩ := isOk_iff.mp (hreadable.1 hfree hname)
        exact ⟨_, map_eq_ok_iff.mpr ⟨group, hgroup, rfl⟩⟩
      next => exact ⟨_, rfl⟩
    | _ => exact ⟨_, rfl⟩
  | inGroup inner hopens =>
    cases inner with
    | cons first inner => exact ⟨_, rfl⟩
    | nil =>
      cases event with
      | startTag tag | emptyTag tag =>
        simp only [List.length_nil, Reading.step, Reading.stepInGroup]
        split
        next hname =>
          obtain ⟨entry, hentry⟩ := isOk_iff.mp (hreadable.2 hopens.isGroupContent hname)
          exact ⟨_, map_eq_ok_iff.mpr ⟨entry, hentry, rfl⟩⟩
        next => exact ⟨_, rfl⟩
      | _ => exact ⟨_, rfl⟩
  | inEntry inner hentry hopens =>
    cases inner with
    | cons first inner => exact ⟨_, rfl⟩
    | nil =>
      cases event with
      | reference name =>
        obtain ⟨char, hchar⟩ := isOk_iff.mp (hreadable ⟨hentry, hopens.isGroupContent⟩)
        exact ⟨_, map_eq_ok_iff.mpr ⟨char, by simp only [referredCharacter, hchar], rfl⟩⟩
      | _ => exact ⟨_, rfl⟩

end

/-! ## Many steps -/

section

variable {tags : List Tag} {events : List Event} {reading final : Reading}

/-- Events that can be decoded where they stand are read. -/
theorem StandsIn.exists_run (hstands : StandsIn tags reading.place)
    (hreadable : AreReadable tags events) :
    ∃ final, events.foldlM Reading.step reading = .ok final := by
  induction events generalizing tags reading with
  | nil => exact ⟨reading, rfl⟩
  | cons event rest ih =>
    obtain ⟨hevent, hrest⟩ := areReadable_cons_iff.mp hreadable
    obtain ⟨next, hstep⟩ := hstands.exists_step hevent
    obtain ⟨final, hrun⟩ := ih (hstands.follows hstep).place hrest
    exact ⟨final, by rw [List.foldlM_cons, hstep]; exact hrun⟩

/-- The place that a reading reaches agrees with the elements that are then open. -/
theorem StandsIn.after (hstands : StandsIn tags reading.place)
    (hrun : events.foldlM Reading.step reading = .ok final) :
    StandsIn (events.foldl openTagsAfter tags) final.place := by
  induction events generalizing tags reading with
  | nil =>
    obtain rfl := Except.ok.inj hrun
    exact hstands
  | cons event rest ih =>
    rw [List.foldlM_cons] at hrun
    obtain ⟨next, hstep, hrest⟩ := bind_eq_ok_iff.mp hrun
    exact ih (hstands.follows hstep).place hrest

/-- A reading adds the groups that end, behind those it has. -/
theorem StandsIn.exists_ended (hstands : StandsIn tags reading.place)
    (hrun : events.foldlM Reading.step reading = .ok final) :
    ∃ ended, final.groups = reading.groups ++ ended ∧ ended.length = endedGroups tags events := by
  induction events generalizing tags reading with
  | nil =>
    obtain rfl := Except.ok.inj hrun
    exact ⟨[], (List.append_nil _).symm, rfl⟩
  | cons event rest ih =>
    rw [List.foldlM_cons] at hrun
    obtain ⟨next, hstep, hrest⟩ := bind_eq_ok_iff.mp hrun
    have hfollows := hstands.follows hstep
    obtain ⟨first, hfirst, hone⟩ := hfollows.groups
    obtain ⟨later, hlater, hmany⟩ := ih hfollows.place hrest
    refine ⟨first ++ later, by rw [hlater, hfirst, List.append_assoc], ?_⟩
    rw [List.length_append, hone, hmany, endedGroups]

end

/-- A reading whose innermost open element is a group stands directly inside it. -/
theorem StandsIn.exists_inGroup {tags : List Tag} {place : Place} (hstands : StandsIn tags place)
    (hcontent : IsGroupContent tags) : ∃ group, place = .inGroup group 0 := by
  cases hstands with
  | outside hfree =>
    obtain ⟨hname, _⟩ := hcontent
    exact absurd hname (hfree _ List.mem_cons_self)
  | @inGroup tag outer group inner hopens =>
    cases inner with
    | nil => exact ⟨group, rfl⟩
    | cons first inner =>
      obtain ⟨_, houter⟩ := hcontent
      exact absurd houter (hopens.not_isGroupFree inner)
  | @inEntry element tag outer group entry content inner hentry hopens =>
    rw [List.append_cons] at hcontent
    cases inner with
    | nil =>
      obtain ⟨_, houter⟩ := hcontent
      exact absurd houter (hopens.not_isGroupFree [])
    | cons first inner =>
      obtain ⟨_, houter⟩ := hcontent
      exact absurd houter (hopens.not_isGroupFree (inner ++ [element]))

theorem standsIn_start : StandsIn [] Reading.start.place := .outside (by simp [IsGroupFree])

/-! ## The end of the document -/

/-- The outermost open `preferences` element, which is the group that is open. -/
def openGroup? (tags : List Tag) : Option Tag :=
  tags.reverse.find? fun tag => tag.name = groupElement

theorem openGroup?_eq_none_iff {tags : List Tag} : openGroup? tags = none ↔ IsGroupFree tags := by
  simp [openGroup?, IsGroupFree]

section

variable {tags outer : List Tag} {tag : Tag} {group : Group} {place : Place}

theorem OpensGroup.openGroup?_eq (hopens : OpensGroup tag outer group) (inner : List Tag) :
    openGroup? (inner ++ tag :: outer) = some tag := by
  have houter : outer.reverse.find? (fun tag => tag.name = groupElement) = none :=
    openGroup?_eq_none_iff.mpr hopens.outermost
  simp [openGroup?, houter, hopens.named]

/-- A reading that stands in a group can only end with the error that names the group. -/
theorem StandsIn.finish_of_openGroup (hstands : StandsIn tags place)
    (hopen : openGroup? tags = some tag) (groups : List Group) :
    ∃ name, (groupOfAttributes tag.attributes).map Group.name = .ok name ∧
      Reading.finish ⟨groups, place⟩ = .error (.invalidStructure (.unterminatedGroup name)) := by
  cases hstands with
  | outside hfree => rw [openGroup?_eq_none_iff.mpr hfree] at hopen; cases hopen
  | inGroup inner hopens =>
    obtain rfl := Option.some.inj ((hopens.openGroup?_eq inner).symm.trans hopen)
    exact ⟨_, hopens.declared, rfl⟩
  | inEntry inner hentry hopens =>
    rw [List.append_cons, hopens.openGroup?_eq] at hopen
    obtain rfl := Option.some.inj hopen
    exact ⟨_, hopens.declared, rfl⟩

/-- A reading ends well exactly if it stands in no group and there is a complete one. -/
theorem StandsIn.finish_eq_ok_iff (hstands : StandsIn tags place) (groups result : List Group) :
    Reading.finish ⟨groups, place⟩ = .ok result ↔
      IsGroupFree tags ∧ groups ≠ [] ∧ result = groups := by
  cases hstands with
  | outside hfree =>
    cases groups with
    | nil => simp [Reading.finish]
    | cons group rest => simp [Reading.finish, hfree, eq_comm]
  | inGroup inner hopens =>
    exact ⟨nofun, fun hend => absurd hend.1 (hopens.not_isGroupFree _)⟩
  | inEntry inner hentry hopens =>
    rw [List.append_cons]
    exact ⟨nofun, fun hend => absurd hend.1 (hopens.not_isGroupFree _)⟩

end

/-- A document that ends while a group is open is rejected for that group, wherever in it the end
is: between its entries, inside one of them, or inside any depth of elements without a meaning. -/
theorem groupsOfStream_of_openGroup (stream : EventStream) (tag : Tag)
    (hfault : stream.fault? = none) (hreadable : AreReadable [] stream.events)
    (hopen : openGroup? (openTags stream.events) = some tag) :
    ∃ group fault, groupOfAttributes tag.attributes = .ok group ∧
      groupsOfStream stream = .error (.invalidStructure fault) ∧
      fault.message = "unterminated preferences element '" ++ group.name ++ "'" := by
  obtain ⟨final, hrun⟩ := standsIn_start.exists_run hreadable
  obtain ⟨name, hname, hfinish⟩ := (standsIn_start.after hrun).finish_of_openGroup hopen final.groups
  obtain ⟨group, hgroup, rfl⟩ := map_eq_ok_iff.mp hname
  refine ⟨group, .unterminatedGroup group.name, hgroup, ?_, rfl⟩
  simp only [groupsOfStream, hrun, hfault]
  exact hfinish

/-- A document that ends deep inside an entry, where a nested `preferences` element is no group. -/
def unfinishedAccount : String :=
  "<declarations><preferences name=\"Display\"/><preferences name=\"Account\">" ++
    "<entry name=\"id\">a&amp;b<note><preferences><entry><br/></entry>"

theorem groupsOfStream_of_unfinishedAccount :
    (readEvents unfinishedAccount).fault? = none ∧
      AreReadable [] (readEvents unfinishedAccount).events ∧
      openGroup? (openTags (readEvents unfinishedAccount).events) =
        some ⟨"preferences", [⟨"name", "Account"⟩]⟩ ∧
      ∃ fault, readDeclarations unfinishedAccount = .error (.invalidStructure fault) ∧
        fault.message = "unterminated preferences element 'Account'" := by
  have hevents : readEvents unfinishedAccount = ⟨[
      .startTag ⟨"declarations", []⟩, .emptyTag ⟨"preferences", [⟨"name", "Display"⟩]⟩,
      .startTag ⟨"preferences", [⟨"name", "Account"⟩]⟩, .startTag ⟨"entry", [⟨"name", "id"⟩]⟩,
      .text "a", .reference "amp", .text "b", .startTag ⟨"note", []⟩,
      .startTag ⟨"preferences", []⟩, .startTag ⟨"entry", []⟩, .emptyTag ⟨"br", []⟩, .endTag],
      none⟩ := by
    unfold readEvents unfinishedAccount
    rw [String.toList_append, String.toList_ofList, String.toList_ofList]
    decide +kernel
  have hfault : (readEvents unfinishedAccount).fault? = none := by rw [hevents]
  have hreadable : AreReadable [] (readEvents unfinishedAccount).events := by
    rw [hevents]; decide
  have hopen : openGroup? (openTags (readEvents unfinishedAccount).events) =
      some ⟨"preferences", [⟨"name", "Account"⟩]⟩ := by rw [hevents]; decide
  obtain ⟨group, fault, hgroup, herror, hmessage⟩ :=
    groupsOfStream_of_openGroup (readEvents unfinishedAccount) _ hfault hreadable hopen
  have haccount : groupOfAttributes [⟨"name", "Account"⟩] = .ok { name := "Account" } := rfl
  obtain rfl := Except.ok.inj (haccount.symm.trans hgroup)
  exact ⟨hfault, hreadable, hopen, fault, herror, hmessage⟩

end PrefAccessors
