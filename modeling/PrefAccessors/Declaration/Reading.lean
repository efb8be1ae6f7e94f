import PrefAccessors.Declaration.Element
import PrefAccessors.Markup.Event
import PrefAccessors.Text.Blank

/-! # Reading declaration documents

Groups are the outermost `preferences` elements of a document, at any depth below
other elements. The entries of a group are the `entry` elements directly inside
it. Text directly inside an entry is its default, unless an attribute gives one.
All other elements are ignored together with everything inside them.
-/

namespace PrefAccessors

/-- Where in a document the next event stands. Inside a group or an entry, `ignored` counts
the open elements that have no meaning there. -/
inductive Place
  | outside
  | inGroup (group : Group) (ignored : Nat)
  | inEntry (group : Group) (entry : Entry) (content : String) (ignored : Nat)
  deriving DecidableEq, Repr

/-- The groups that are complete, and the place that is reached. -/
structure Reading where
  groups : List Group
  place : Place
  deriving DecidableEq, Repr

def Reading.start : Reading := ⟨[], .outside⟩

/-- The character that a reference in the content of an entry stands for. -/
def referredCharacter (entry : Entry) (name : String) : Except DeclarationError Char :=
  match Markup.resolveReference name.toList with
  | .ok char => .ok char
  | .error (.character fault) => .error (.characterReference fault)
  | .error (.unknownEntity entity) =>
    .error (.invalidStructure (.unknownEntity entity entry.name))

/-- The entry with its content as default, when it has no other default and the content is
not blank. -/
def Entry.withContent (entry : Entry) (content : String) : Entry :=
  let trimmed := Text.trim content.toList
  if entry.default?.isSome || trimmed.isEmpty then entry
  else { entry with default? := some (String.ofList trimmed) }

def Reading.stepOutside (groups : List Group) : Markup.Event → Except DeclarationError Reading
  | .startTag tag =>
    if tag.name = groupElement then
      (groupOfAttributes tag.attributes).map fun group => ⟨groups, .inGroup group 0⟩
    else .ok ⟨groups, .outside⟩
  | .emptyTag tag =>
    if tag.name = groupElement then
      (groupOfAttributes tag.attributes).map fun group => ⟨groups ++ [group], .outside⟩
    else .ok ⟨groups, .outside⟩
  | _ => .ok ⟨groups, .outside⟩

def Reading.stepInGroup (groups : List Group) (group : Group) :
    Markup.Event → Except DeclarationError Reading
  | .startTag tag =>
    if tag.name = entryElement then
      (entryOfAttributes tag.attributes).map fun entry => ⟨groups, .inEntry group entry "" 0⟩
    else .ok ⟨groups, .inGroup group 1⟩
  | .emptyTag tag =>
    if tag.name = entryElement then
      (entryOfAttributes tag.attributes).map fun entry =>
        ⟨groups, .inGroup (group.addEntry entry) 0⟩
    else .ok ⟨groups, .inGroup group 0⟩
  | .endTag => .ok ⟨groups ++ [group], .outside⟩
  | _ => .ok ⟨groups, .inGroup group 0⟩

def Reading.stepInEntry (groups : List Group) (group : Group) (entry : Entry)
    (content : String) : Markup.Event → Except DeclarationError Reading
  | .text text | .characterData text => .ok ⟨groups, .inEntry group entry (content ++ text) 0⟩
  | .reference name =>
    (referredCharacter entry name).map fun char =>
      ⟨groups, .inEntry group entry (content.push char) 0⟩
  | .startTag _ => .ok ⟨groups, .inEntry group entry content 1⟩
  | .endTag => .ok ⟨groups, .inGroup (group.addEntry (entry.withContent content)) 0⟩
  | _ => .ok ⟨groups, .inEntry group entry content 0⟩

/-- The number of ignored elements that are open after an event inside one of them. -/
def ignoredAfter (ignored : Nat) : Markup.Event → Nat
  | .startTag _ => ignored + 1
  | .endTag => ignored - 1
  | _ => ignored

def Reading.step (reading : Reading) (event : Markup.Event) : Except DeclarationError Reading :=
  match reading.place with
  | .outside => stepOutside reading.groups event
  | .inGroup group 0 => stepInGroup reading.groups group event
  | .inGroup group (ignored + 1) =>
    .ok ⟨reading.groups, .inGroup group (ignoredAfter (ignored + 1) event)⟩
  | .inEntry group entry content 0 => stepInEntry reading.groups group entry content event
  | .inEntry group entry content (ignored + 1) =>
    .ok ⟨reading.groups, .inEntry group entry content (ignoredAfter (ignored + 1) event)⟩

/-- The groups of a document that ends here. -/
def Reading.finish (reading : Reading) : Except DeclarationError (List Group) :=
  match reading.place with
  | .outside =>
    if reading.groups.isEmpty then .error (.invalidStructure .noGroups) else .ok reading.groups
  | .inGroup group _ | .inEntry group _ _ _ =>
    .error (.invalidStructure (.unterminatedGroup group.name))

/-- The groups of a stream of events. A fault counts only when all events before it are
read. -/
def groupsOfStream (stream : Markup.EventStream) : Except DeclarationError (List Group) :=
  match stream.events.foldlM Reading.step Reading.start with
  | .error error => .error error
  | .ok reading =>
    match stream.fault? with
    | some fault => .error (.markup fault)
    | none => reading.finish

/-- The groups that a document declares, in the order of the document. -/
def readDeclarations (source : String) : Except DeclarationError (List Group) :=
  groupsOfStream (Markup.readEvents source)

end PrefAccessors
