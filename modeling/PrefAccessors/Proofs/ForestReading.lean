import PrefAccessors.Declaration.Forest
import PrefAccessors.Proofs.Sequencing

/-! # Reading follows the tree

Reading the events of a forest gives what the shape of the forest declares. Each
place of the reading has its own law for the events of one node: an ignored
element leaves its place as it was, the children of an entry add to its content,
the children of a group add entries, and everything else adds groups.
-/

namespace PrefAccessors

open Markup

/-! ## Ignored elements -/

/-- In these places only the number of open elements changes, which is their parameter. -/
def Ignores (groups : List Group) (place : Nat → Place) : Prop :=
  ∀ ignored event, Reading.step ⟨groups, place (ignored + 1)⟩ event =
    .ok ⟨groups, place (ignoredAfter (ignored + 1) event)⟩

theorem inGroup_ignores (groups : List Group) (group : Group) :
    Ignores groups (.inGroup group) := fun _ _ => rfl

theorem inEntry_ignores (groups : List Group) (group : Group) (entry : Entry) (content : String) :
    Ignores groups (.inEntry group entry content) := fun _ _ => rfl

section

variable {groups : List Group} {place : Nat → Place}

theorem Ignores.step (hignores : Ignores groups place) (ignored : Nat) (event : Event) :
    Reading.step ⟨groups, place (ignored + 1)⟩ event =
      .ok ⟨groups, place (ignoredAfter (ignored + 1) event)⟩ := hignores ignored event

mutual

/-- A node inside an ignored element opens as many elements as it closes. -/
theorem Ignores.foldlM_events (hignores : Ignores groups place) (ignored : Nat) (node : Node) :
    node.events.foldlM Reading.step ⟨groups, place (ignored + 1)⟩ =
      .ok ⟨groups, place (ignored + 1)⟩ := by
  cases node with
  | element tag children =>
    -- The children stand one element deeper, and the end of the element brings the number back.
    have hchildren := hignores.foldlM_forestEvents (ignored + 1) children
    simp [Node.events, hignores.step, ignoredAfter, hchildren]
  | _ => simp [Node.events, hignores.step, ignoredAfter]

theorem Ignores.foldlM_forestEvents (hignores : Ignores groups place) (ignored : Nat)
    (forest : List Node) :
    (forestEvents forest).foldlM Reading.step ⟨groups, place (ignored + 1)⟩ =
      .ok ⟨groups, place (ignored + 1)⟩ := by
  cases forest with
  | nil => rfl
  | cons node rest =>
    rw [forestEvents, List.foldlM_append, hignores.foldlM_events ignored node]
    exact hignores.foldlM_forestEvents ignored rest

end

end

/-! ## Entries -/

theorem contentOfChildren_cons (entry : Entry) (node : Node) (rest : List Node) :
    contentOfChildren entry (node :: rest) =
      ownText entry node >>= fun own =>
        contentOfChildren entry rest >>= fun content => .ok (own ++ content) := by
  simp [contentOfChildren]

theorem foldlM_events_inEntry (groups : List Group) (group : Group) (entry : Entry)
    (content : String) (node : Node) :
    node.events.foldlM Reading.step ⟨groups, .inEntry group entry content 0⟩ =
      ownText entry node >>= fun own => .ok ⟨groups, .inEntry group entry (content ++ own) 0⟩ := by
  cases node with
  | element tag children =>
    have hchildren := (inEntry_ignores groups group entry content).foldlM_forestEvents 0 children
    simp [Node.events, Reading.step, Reading.stepInEntry, ownText, hchildren, ignoredAfter]
  | reference name =>
    simp [Node.events, Reading.step, Reading.stepInEntry, ownText, map_eq_bind]
  | _ => simp [Node.events, Reading.step, Reading.stepInEntry, ownText]

theorem foldlM_forestEvents_inEntry (groups : List Group) (group : Group) (entry : Entry)
    (content : String) (children : List Node) :
    (forestEvents children).foldlM Reading.step ⟨groups, .inEntry group entry content 0⟩ =
      contentOfChildren entry children >>= fun more =>
        .ok ⟨groups, .inEntry group entry (content ++ more) 0⟩ := by
  -- The content is general, since each child extends it for those behind it.
  induction children generalizing content with
  | nil => simp [forestEvents, contentOfChildren]
  | cons node rest ih =>
    rw [forestEvents, List.foldlM_append, foldlM_events_inEntry, contentOfChildren_cons]
    simp [ih, String.append_assoc]

theorem contentDefault?_empty : contentDefault? "" = none := rfl

/-- An entry keeps a default that it has, and its content gives one otherwise. -/
theorem Entry.withContent_eq (entry : Entry) (content : String) :
    entry.withContent content =
      { entry with default? := entry.default? <|> contentDefault? content } := by
  obtain ⟨name, typeSpelling?, default?, booleanPrefix?, key?, description?⟩ := entry
  cases default? with
  | some written => rfl
  | none =>
    simp only [Entry.withContent, contentDefault?]
    split
    next hblank => simp_all
    next hblank => simp_all

/-! ## Groups -/

theorem elementsNamed_cons (name : String) (node : Node) (rest : List Node) :
    elementsNamed name (node :: rest) =
      (node.elementNamed? name).toList ++ elementsNamed name rest := by
  cases hnode : node.elementNamed? name <;> simp [elementsNamed, hnode]

theorem foldlM_events_inGroup (groups : List Group) (group : Group) (node : Node) :
    node.events.foldlM Reading.step ⟨groups, .inGroup group 0⟩ =
      (node.elementNamed? entryElement).toList.mapM entryOfElement >>= fun entries =>
        .ok ⟨groups, .inGroup { group with entries := group.entries ++ entries } 0⟩ := by
  cases node with
  | element tag children =>
    by_cases hname : tag.name = entryElement
    · simp [Node.events, Node.elementNamed?, hname, Reading.step, Reading.stepInGroup,
        Reading.stepInEntry, foldlM_forestEvents_inEntry, Entry.withContent_eq, Group.addEntry,
        entryOfElement, map_eq_bind]
    · -- Entries below another element are events of an ignored element.
      have hchildren := (inGroup_ignores groups group).foldlM_forestEvents 0 children
      simp [Node.events, Node.elementNamed?, hname, Reading.step, Reading.stepInGroup,
        hchildren, ignoredAfter]
  | empty tag =>
    by_cases hname : tag.name = entryElement
    · simp [Node.events, Node.elementNamed?, hname, Reading.step, Reading.stepInGroup,
        Group.addEntry, entryOfElement, contentOfChildren, contentDefault?_empty, map_eq_bind]
    · simp [Node.events, Node.elementNamed?, hname, Reading.step, Reading.stepInGroup]
  | _ => simp [Node.events, Node.elementNamed?, Reading.step, Reading.stepInGroup]

theorem foldlM_forestEvents_inGroup (groups : List Group) (group : Group)
    (children : List Node) :
    (forestEvents children).foldlM Reading.step ⟨groups, .inGroup group 0⟩ =
      (elementsNamed entryElement children).mapM entryOfElement >>= fun entries =>
        .ok ⟨groups, .inGroup { group with entries := group.entries ++ entries } 0⟩ := by
  induction children generalizing group with
  | nil => simp [forestEvents, elementsNamed]
  | cons node rest ih =>
    rw [forestEvents, List.foldlM_append, foldlM_events_inGroup, elementsNamed_cons,
      List.mapM_append]
    simp [ih]

/-- The attributes of a group declare no entries. -/
theorem groupOfAttributes_entries {attributes : List Attribute} {group : Group}
    (hgroup : groupOfAttributes attributes = .ok group) : group.entries = [] := by
  obtain ⟨fields, _, hfields⟩ := bind_eq_ok_iff.mp hgroup
  unfold groupOfFields at hfields
  split at hfields
  next => simp at hfields
  next =>
    obtain rfl := Except.ok.inj hfields
    rfl

/-- The entries of a group are all that its children add to it. -/
theorem groupOfElement_eq (element : Element) :
    groupOfElement element =
      groupOfAttributes element.tag.attributes >>= fun group =>
        (elementsNamed entryElement element.children).mapM entryOfElement >>= fun entries =>
          .ok { group with entries := group.entries ++ entries } := by
  unfold groupOfElement
  cases hgroup : groupOfAttributes element.tag.attributes with
  | error error => rfl
  | ok group => simp [groupOfAttributes_entries hgroup]

/-! ## Documents -/

mutual

theorem foldlM_events_outside (groups : List Group) (node : Node) :
    node.events.foldlM Reading.step ⟨groups, .outside⟩ =
      (node.outermost groupElement).mapM groupOfElement >>= fun more =>
        .ok ⟨groups ++ more, .outside⟩ := by
  cases node with
  | element tag children =>
    by_cases hname : tag.name = groupElement
    · simp [Node.events, Node.outermost, hname, Reading.step, Reading.stepOutside,
        foldlM_forestEvents_inGroup, Reading.stepInGroup, groupOfElement_eq, map_eq_bind]
    · -- Another element only surrounds groups, so its events are read in the same place.
      have hchildren := foldlM_forestEvents_outside groups children
      simp [Node.events, Node.outermost, hname, Reading.step, Reading.stepOutside, hchildren]
  | empty tag =>
    by_cases hname : tag.name = groupElement
    · simp [Node.events, Node.outermost, hname, Reading.step, Reading.stepOutside,
        groupOfElement_eq, elementsNamed, map_eq_bind]
    · simp [Node.events, Node.outermost, hname, Reading.step, Reading.stepOutside]
  | _ => simp [Node.events, Node.outermost, Reading.step, Reading.stepOutside]

theorem foldlM_forestEvents_outside (groups : List Group) (forest : List Node) :
    (forestEvents forest).foldlM Reading.step ⟨groups, .outside⟩ =
      (outermostNamed groupElement forest).mapM groupOfElement >>= fun more =>
        .ok ⟨groups ++ more, .outside⟩ := by
  cases forest with
  | nil => simp [forestEvents, outermostNamed]
  | cons node rest =>
    have hrest := fun groups => foldlM_forestEvents_outside groups rest
    rw [forestEvents, List.foldlM_append, foldlM_events_outside groups node, outermostNamed,
      List.mapM_append]
    simp [hrest]

end

/-- A reader that takes the events one by one and a reader that looks at the whole tree find
the same groups, or the same first error. -/
theorem groupsOfStream_forestEvents (forest : List Node) :
    groupsOfStream ⟨forestEvents forest, none⟩ = declarationsOfForest forest := by
  unfold groupsOfStream declarationsOfForest
  rw [Reading.start, foldlM_forestEvents_outside]
  cases (outermostNamed groupElement forest).mapM groupOfElement with
  | error error => rfl
  | ok groups => simp [Reading.finish]

end PrefAccessors
