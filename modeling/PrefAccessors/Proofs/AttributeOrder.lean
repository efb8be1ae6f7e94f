import Mathlib.Data.List.Perm.Basic
import PrefAccessors.Declaration.Element
import PrefAccessors.Proofs.FaultyAttributes
import PrefAccessors.Proofs.Sequencing

/-! # The order of attributes

A tag declares a group or an entry by the values that stand under its keys. The keys
are distinct, so the values are found in whatever order the attributes stand, and an
attribute under a key without a meaning can be added anywhere, if only its value can
be decoded. The same holds of an editor type where the setters are not chained. So
the order of the attributes of a tag makes no difference to a document either.
-/

namespace PrefAccessors

open Markup

/-! ## What attributes declare -/

/-- The value of an attribute with its references replaced, if all of them can be. -/
def Markup.Attribute.value? (pair : Attribute) : Option String :=
  (unescape? pair.rawValue.toList).map String.ofList

/-- Whether the value stands under the key, wherever that is. -/
def HasValue (attributes : List Attribute) (key value : String) : Prop :=
  ∃ pair ∈ attributes, pair.key = key ∧ pair.value? = some value

/-- Whether `value?` is what stands under the key: a value, or nothing if no attribute has the
key. -/
def IsUnder (attributes : List Attribute) (key : String) (value? : Option String) : Prop :=
  ∀ value, value? = some value ↔ HasValue attributes key value

/-- The keys that mean something to a group. -/
def groupKeys : List String :=
  ["name", "package", "defaultType", "editor", "editorType", "description"]

/-- The keys that mean something to an entry. -/
def entryKeys : List String :=
  ["name", "type", "default", "booleanPrefix", "key", "description"]

/-- The group is the one that the attributes declare. All values are decodable, the editor style
is a known one, and the fields are what stands under the keys. -/
structure Group.IsDeclaredBy (group : Group) (attributes : List Attribute) : Prop where
  decodable : ∀ pair ∈ attributes, pair.value?.isSome
  style : ∀ style, HasValue attributes "editor" style → (readsAsChained? style).isSome
  name : IsUnder attributes "name" (some group.name)
  package : IsUnder attributes "package" group.package?
  defaultType : IsUnder attributes "defaultType" group.defaultTypeSpelling?
  editorMode : ∃ style? editorType?, IsUnder attributes "editor" style? ∧
    IsUnder attributes "editorType" editorType? ∧ group.editorMode = editorModeOf style? editorType?
  description : IsUnder attributes "description" group.description?
  entries : group.entries = []

/-- The entry is the one that the attributes declare. -/
structure Entry.IsDeclaredBy (entry : Entry) (attributes : List Attribute) : Prop where
  decodable : ∀ pair ∈ attributes, pair.value?.isSome
  name : IsUnder attributes "name" (some entry.name)
  type : IsUnder attributes "type" entry.typeSpelling?
  default : IsUnder attributes "default" entry.default?
  booleanPrefix : IsUnder attributes "booleanPrefix" entry.booleanPrefix?
  key : IsUnder attributes "key" entry.key?
  description : IsUnder attributes "description" entry.description?

section

variable {attributes reordered : List Attribute}

theorem HasValue.of_perm (hperm : reordered.Perm attributes) {key value : String} :
    HasValue reordered key value ↔ HasValue attributes key value := by
  simp only [HasValue, hperm.mem_iff]

theorem IsUnder.of_perm (hperm : reordered.Perm attributes) {key : String}
    {value? : Option String} (hunder : IsUnder attributes key value?) :
    IsUnder reordered key value? := fun value =>
  (hunder value).trans (HasValue.of_perm hperm).symm

theorem Group.IsDeclaredBy.of_perm (hperm : reordered.Perm attributes) {group : Group}
    (hgroup : group.IsDeclaredBy attributes) : group.IsDeclaredBy reordered where
  decodable pair hpair := hgroup.decodable pair (hperm.mem_iff.mp hpair)
  style style hstyle := hgroup.style style ((HasValue.of_perm hperm).mp hstyle)
  name := hgroup.name.of_perm hperm
  package := hgroup.package.of_perm hperm
  defaultType := hgroup.defaultType.of_perm hperm
  editorMode := by
    obtain ⟨style?, editorType?, hstyle, htype, hmode⟩ := hgroup.editorMode
    exact ⟨style?, editorType?, hstyle.of_perm hperm, htype.of_perm hperm, hmode⟩
  description := hgroup.description.of_perm hperm
  entries := hgroup.entries

theorem Entry.IsDeclaredBy.of_perm (hperm : reordered.Perm attributes) {entry : Entry}
    (hentry : entry.IsDeclaredBy attributes) : entry.IsDeclaredBy reordered where
  decodable pair hpair := hentry.decodable pair (hperm.mem_iff.mp hpair)
  name := hentry.name.of_perm hperm
  type := hentry.type.of_perm hperm
  default := hentry.default.of_perm hperm
  booleanPrefix := hentry.booleanPrefix.of_perm hperm
  key := hentry.key.of_perm hperm
  description := hentry.description.of_perm hperm

end

/-! ## Decoded attributes -/

theorem decodeAttribute_eq_ok_iff {pair : Attribute} {field : String × String} :
    decodeAttribute pair = .ok field ↔ pair.key = field.1 ∧ pair.value? = some field.2 := by
  obtain ⟨key, value⟩ := field
  unfold decodeAttribute Attribute.value?
  cases unescape? pair.rawValue.toList with
  | none => simp
  | some decoded => simp

theorem decodeGroupAttribute_eq_ok_iff {pair : Attribute} {field : String × String} :
    decodeGroupAttribute pair = .ok field ↔
      decodeAttribute pair = .ok field ∧
        (field.1 = "editor" → (readsAsChained? field.2).isSome) := by
  unfold decodeGroupAttribute
  cases hdecoded : decodeAttribute pair with
  | error error => simp
  | ok decoded =>
    obtain ⟨key, value⟩ := decoded
    dsimp only
    split
    next hrefused =>
      obtain ⟨hkey, hnone⟩ := hrefused
      constructor
      · nofun
      · rintro ⟨heq, hstyle⟩
        obtain rfl := Except.ok.inj heq
        have hsome := hstyle hkey
        rw [hnone] at hsome
        exact absurd hsome Bool.false_ne_true
    next haccepted =>
      rw [not_and] at haccepted
      constructor
      · intro heq
        obtain rfl := Except.ok.inj heq
        exact ⟨rfl, fun hkey => Option.isSome_iff_ne_none.mpr (haccepted hkey)⟩
      · exact And.left

/-- Only an editor style can be refused for its value. -/
theorem decodeGroupAttribute_of_value {pair : Attribute} {value : String}
    (hvalue : pair.value? = some value) (hkey : pair.key ≠ "editor") :
    decodeGroupAttribute pair = .ok (pair.key, value) := by
  rw [decodeGroupAttribute_eq_ok_iff, decodeAttribute_eq_ok_iff]
  exact ⟨⟨rfl, hvalue⟩, fun heditor => absurd heditor hkey⟩

theorem mapM_decodeGroupAttribute_eq_ok_iff {attributes : List Attribute}
    {fields : List (String × String)} :
    attributes.mapM decodeGroupAttribute = .ok fields ↔
      attributes.mapM decodeAttribute = .ok fields ∧
        ∀ style, ("editor", style) ∈ fields → (readsAsChained? style).isSome := by
  induction attributes generalizing fields with
  | nil =>
    refine iff_self_and.mpr fun hfields => ?_
    obtain rfl := Except.ok.inj hfields
    nofun
  | cons pair rest ih =>
    simp only [mapM_cons_eq_ok_iff, decodeGroupAttribute_eq_ok_iff, ih]
    constructor
    · rintro ⟨field, later, ⟨hfield, hstyle⟩, ⟨hlater, hstyles⟩, rfl⟩
      refine ⟨⟨field, later, hfield, hlater, rfl⟩, fun style hmem => ?_⟩
      rcases List.mem_cons.mp hmem with rfl | hmem
      · exact hstyle rfl
      · exact hstyles style hmem
    · rintro ⟨⟨field, later, hfield, hlater, rfl⟩, hstyles⟩
      have hstyle : field.1 = "editor" → (readsAsChained? field.2).isSome := fun hkey =>
        hstyles field.2 (hkey ▸ List.mem_cons_self)
      have hothers : ∀ style, ("editor", style) ∈ later → (readsAsChained? style).isSome :=
        fun style hmem => hstyles style (List.mem_cons_of_mem _ hmem)
      exact ⟨field, later, ⟨hfield, hstyle⟩, ⟨hlater, hothers⟩, rfl⟩

theorem exists_decoded_iff {attributes : List Attribute} :
    (∃ fields, attributes.mapM decodeAttribute = .ok fields) ↔
      ∀ pair ∈ attributes, pair.value?.isSome := by
  rw [exists_mapM_eq_ok_iff]
  refine forall₂_congr fun pair _ => ?_
  rw [Option.isSome_iff_exists]
  simp [decodeAttribute_eq_ok_iff]

theorem lookup_eq_some_iff_mem {fields : List (String × String)}
    (hdistinct : (fields.map Prod.fst).Nodup) {key value : String} :
    fields.lookup key = some value ↔ (key, value) ∈ fields := by
  rw [List.lookup_eq_some_iff]
  constructor
  · rintro ⟨before, after, rfl, _⟩
    exact List.mem_append_right _ List.mem_cons_self
  · intro hmem
    obtain ⟨before, after, rfl⟩ := List.append_of_mem hmem
    refine ⟨before, after, rfl, fun field hfield => bne_iff_ne.mpr fun hkey => ?_⟩
    rw [List.map_append, List.nodup_append] at hdistinct
    exact hdistinct.2.2 _ (List.mem_map_of_mem hfield) _ List.mem_cons_self hkey.symm

section

variable {attributes : List Attribute} {fields : List (String × String)}

theorem mem_decoded_iff (hdecoded : attributes.mapM decodeAttribute = .ok fields)
    {key value : String} : (key, value) ∈ fields ↔ HasValue attributes key value := by
  simp only [mem_of_mapM_eq_ok hdecoded, decodeAttribute_eq_ok_iff, HasValue]

theorem keys_of_decoded (hdecoded : attributes.mapM decodeAttribute = .ok fields) :
    fields.map Prod.fst = attributes.map Attribute.key := by
  induction attributes generalizing fields with
  | nil =>
    obtain rfl := Except.ok.inj hdecoded
    rfl
  | cons pair rest ih =>
    obtain ⟨field, later, hfield, hlater, rfl⟩ := mapM_cons_eq_ok_iff.mp hdecoded
    rw [List.map_cons, List.map_cons, ih hlater, (decodeAttribute_eq_ok_iff.mp hfield).1]

/-- Looking a key up finds what stands under it. -/
theorem isUnder_iff (hdistinct : (attributes.map Attribute.key).Nodup)
    (hdecoded : attributes.mapM decodeAttribute = .ok fields) {key : String}
    {value? : Option String} : IsUnder attributes key value? ↔ fields.lookup key = value? := by
  rw [← keys_of_decoded hdecoded] at hdistinct
  have hlookup (value : String) : fields.lookup key = some value ↔ HasValue attributes key value :=
    (lookup_eq_some_iff_mem hdistinct).trans (mem_decoded_iff hdecoded)
  constructor
  · intro hunder
    exact Option.ext fun value => (hlookup value).trans (hunder value).symm
  · rintro rfl
    exact hlookup

theorem groupOfFields_eq_ok_iff {group : Group} :
    groupOfFields fields = .ok group ↔
      fields.lookup "name" = some group.name ∧ fields.lookup "package" = group.package? ∧
        fields.lookup "defaultType" = group.defaultTypeSpelling? ∧
        editorModeOf (fields.lookup "editor") (fields.lookup "editorType") = group.editorMode ∧
        fields.lookup "description" = group.description? ∧ group.entries = [] := by
  obtain ⟨name, package?, defaultTypeSpelling?, editorMode, description?, entries⟩ := group
  unfold groupOfFields
  cases fields.lookup "name" with
  | none => simp
  | some found => simp [eq_comm]

theorem entryOfFields_eq_ok_iff {entry : Entry} :
    entryOfFields fields = .ok entry ↔
      fields.lookup "name" = some entry.name ∧ fields.lookup "type" = entry.typeSpelling? ∧
        fields.lookup "default" = entry.default? ∧
        fields.lookup "booleanPrefix" = entry.booleanPrefix? ∧
        fields.lookup "key" = entry.key? ∧ fields.lookup "description" = entry.description? := by
  obtain ⟨name, typeSpelling?, default?, booleanPrefix?, key?, description?⟩ := entry
  unfold entryOfFields
  cases fields.lookup "name" with
  | none => simp
  | some found => simp

end

/-! ## The declared group and entry -/

section

variable {attributes : List Attribute}

/-- A group is read exactly if the attributes declare it, which is told without their order. -/
theorem groupOfAttributes_eq_ok_iff (hdistinct : (attributes.map Attribute.key).Nodup)
    {group : Group} : groupOfAttributes attributes = .ok group ↔ group.IsDeclaredBy attributes := by
  rw [groupOfAttributes, bind_eq_ok_iff]
  constructor
  · rintro ⟨fields, hfields, hgroup⟩
    obtain ⟨hdecoded, hstyles⟩ := mapM_decodeGroupAttribute_eq_ok_iff.mp hfields
    obtain ⟨hname, hpackage, htype, hmode, hdescription, hentries⟩ :=
      groupOfFields_eq_ok_iff.mp hgroup
    have hunder {key : String} {value? : Option String} (hlookup : fields.lookup key = value?) :
        IsUnder attributes key value? := (isUnder_iff hdistinct hdecoded).mpr hlookup
    exact {
      decodable := exists_decoded_iff.mp ⟨fields, hdecoded⟩
      style := fun style hstyle => hstyles style ((mem_decoded_iff hdecoded).mpr hstyle)
      name := hunder hname
      package := hunder hpackage
      defaultType := hunder htype
      editorMode := ⟨_, _, hunder rfl, hunder rfl, hmode.symm⟩
      description := hunder hdescription
      entries := hentries }
  · intro hgroup
    obtain ⟨fields, hdecoded⟩ := exists_decoded_iff.mpr hgroup.decodable
    have hlookup {key : String} {value? : Option String} (hunder : IsUnder attributes key value?) :
        fields.lookup key = value? := (isUnder_iff hdistinct hdecoded).mp hunder
    have hstyles : ∀ style, ("editor", style) ∈ fields → (readsAsChained? style).isSome :=
      fun style hmem => hgroup.style style ((mem_decoded_iff hdecoded).mp hmem)
    obtain ⟨style?, editorType?, hstyle, htype, hmode⟩ := hgroup.editorMode
    refine ⟨fields, mapM_decodeGroupAttribute_eq_ok_iff.mpr ⟨hdecoded, hstyles⟩,
      groupOfFields_eq_ok_iff.mpr ⟨hlookup hgroup.name, hlookup hgroup.package,
        hlookup hgroup.defaultType, ?_, hlookup hgroup.description, hgroup.entries⟩⟩
    rw [hlookup hstyle, hlookup htype, hmode]

theorem entryOfAttributes_eq_ok_iff (hdistinct : (attributes.map Attribute.key).Nodup)
    {entry : Entry} : entryOfAttributes attributes = .ok entry ↔ entry.IsDeclaredBy attributes := by
  rw [entryOfAttributes, bind_eq_ok_iff]
  constructor
  · rintro ⟨fields, hdecoded, hentry⟩
    obtain ⟨hname, htype, hdefault, hprefix, hkey, hdescription⟩ :=
      entryOfFields_eq_ok_iff.mp hentry
    have hunder {key : String} {value? : Option String} (hlookup : fields.lookup key = value?) :
        IsUnder attributes key value? := (isUnder_iff hdistinct hdecoded).mpr hlookup
    exact {
      decodable := exists_decoded_iff.mp ⟨fields, hdecoded⟩
      name := hunder hname
      type := hunder htype
      default := hunder hdefault
      booleanPrefix := hunder hprefix
      key := hunder hkey
      description := hunder hdescription }
  · intro hentry
    obtain ⟨fields, hdecoded⟩ := exists_decoded_iff.mpr hentry.decodable
    have hlookup {key : String} {value? : Option String} (hunder : IsUnder attributes key value?) :
        fields.lookup key = value? := (isUnder_iff hdistinct hdecoded).mp hunder
    exact ⟨fields, hdecoded, entryOfFields_eq_ok_iff.mpr ⟨hlookup hentry.name, hlookup hentry.type,
      hlookup hentry.default, hlookup hentry.booleanPrefix, hlookup hentry.key,
      hlookup hentry.description⟩⟩

/-- In any order of the attributes the same group is read, or none. -/
theorem groupOfAttributes_of_perm (hdistinct : (attributes.map Attribute.key).Nodup)
    {reordered : List Attribute} (hperm : reordered.Perm attributes) {group : Group} :
    groupOfAttributes reordered = .ok group ↔ groupOfAttributes attributes = .ok group := by
  rw [groupOfAttributes_eq_ok_iff ((hperm.map Attribute.key).nodup_iff.mpr hdistinct),
    groupOfAttributes_eq_ok_iff hdistinct]
  exact ⟨.of_perm hperm.symm, .of_perm hperm⟩

theorem entryOfAttributes_of_perm (hdistinct : (attributes.map Attribute.key).Nodup)
    {reordered : List Attribute} (hperm : reordered.Perm attributes) {entry : Entry} :
    entryOfAttributes reordered = .ok entry ↔ entryOfAttributes attributes = .ok entry := by
  rw [entryOfAttributes_eq_ok_iff ((hperm.map Attribute.key).nodup_iff.mpr hdistinct),
    entryOfAttributes_eq_ok_iff hdistinct]
  exact ⟨.of_perm hperm.symm, .of_perm hperm⟩

/-- The mode is told by the two attributes that are about it, wherever they stand. -/
theorem Group.IsDeclaredBy.editorMode_eq {group : Group} (hgroup : group.IsDeclaredBy attributes)
    {style editorType : Attribute} (hstyle : style ∈ attributes) (htype : editorType ∈ attributes)
    (hstyleKey : style.key = "editor") (htypeKey : editorType.key = "editorType") :
    group.editorMode = editorModeOf style.value? editorType.value? := by
  have hunder {pair : Attribute} (hpair : pair ∈ attributes) {value? : Option String}
      (hvalue : IsUnder attributes pair.key value?) : pair.value? = value? := by
    obtain ⟨value, hsome⟩ := Option.isSome_iff_exists.mp (hgroup.decodable pair hpair)
    rw [hsome, (hvalue value).mpr ⟨pair, hpair, rfl, hsome⟩]
  obtain ⟨style?, editorType?, hstyleUnder, htypeUnder, hmode⟩ := hgroup.editorMode
  rw [← hstyleKey] at hstyleUnder
  rw [← htypeKey] at htypeUnder
  rw [hmode, hunder hstyle hstyleUnder, hunder htype htypeUnder]

end

/-! ## Attributes without a meaning -/

section

variable {first last : List (String × String)} {field : String × String}

theorem lookup_insert {key : String} (hkey : key ≠ field.1) :
    (first ++ field :: last).lookup key = (first ++ last).lookup key := by
  rw [List.lookup_append, List.lookup_append, List.lookup_cons, beq_false_of_ne hkey]

theorem groupOfFields_insert (hkey : field.1 ∉ groupKeys) :
    groupOfFields (first ++ field :: last) = groupOfFields (first ++ last) := by
  have hlookup : ∀ key ∈ groupKeys,
      (first ++ field :: last).lookup key = (first ++ last).lookup key :=
    fun key hmem => lookup_insert (ne_of_mem_of_not_mem hmem hkey)
  simp only [groupKeys, List.forall_mem_cons] at hlookup
  simp only [groupOfFields, hlookup]

theorem entryOfFields_insert (hkey : field.1 ∉ entryKeys) :
    entryOfFields (first ++ field :: last) = entryOfFields (first ++ last) := by
  have hlookup : ∀ key ∈ entryKeys,
      (first ++ field :: last).lookup key = (first ++ last).lookup key :=
    fun key hmem => lookup_insert (ne_of_mem_of_not_mem hmem hkey)
  simp only [entryKeys, List.forall_mem_cons] at hlookup
  simp only [entryOfFields, hlookup]

theorem groupOfFields_insert_editorType (hkey : field.1 = "editorType")
    (hstyle : ∀ style, (first ++ last).lookup "editor" = some style →
      readsAsChained? style ≠ some true) :
    groupOfFields (first ++ field :: last) = groupOfFields (first ++ last) := by
  have hlookup (key : String) (hne : key ≠ "editorType") :
      (first ++ field :: last).lookup key = (first ++ last).lookup key :=
    lookup_insert (hkey ▸ hne)
  -- The editor type is looked up with another result, but an immediate mode leaves it out.
  have himmediate (editorType? : Option String) :
      editorModeOf ((first ++ last).lookup "editor") editorType? = .immediate := by
    refine if_neg fun hchained => ?_
    obtain ⟨style, hsome, htrue⟩ := Option.bind_eq_some_iff.mp hchained
    exact hstyle style hsome htrue
  simp only [groupOfFields, hlookup "name" (by decide), hlookup "package" (by decide),
    hlookup "defaultType" (by decide), hlookup "editor" (by decide),
    hlookup "description" (by decide), himmediate]

end

section

variable {before after : List Attribute} {pair : Attribute}

theorem groupOfAttributes_insert (hvalue : pair.value?.isSome) (hkey : pair.key ∉ groupKeys) :
    groupOfAttributes (before ++ pair :: after) = groupOfAttributes (before ++ after) := by
  obtain ⟨value, hvalue⟩ := Option.isSome_iff_exists.mp hvalue
  have heditor : pair.key ≠ "editor" := Ne.symm (ne_of_mem_of_not_mem (by decide) hkey)
  exact mapM_insert_bind (decodeGroupAttribute_of_value hvalue heditor) fun _ _ _ _ =>
    groupOfFields_insert hkey

theorem entryOfAttributes_insert (hvalue : pair.value?.isSome) (hkey : pair.key ∉ entryKeys) :
    entryOfAttributes (before ++ pair :: after) = entryOfAttributes (before ++ after) := by
  obtain ⟨value, hvalue⟩ := Option.isSome_iff_exists.mp hvalue
  have hdecoded : decodeAttribute pair = .ok (pair.key, value) :=
    decodeAttribute_eq_ok_iff.mpr ⟨rfl, hvalue⟩
  exact mapM_insert_bind hdecoded fun _ _ _ _ => entryOfFields_insert hkey

theorem groupOfAttributes_insert_editorType (hvalue : pair.value?.isSome)
    (hkey : pair.key = "editorType")
    (hstyle : ∀ style, HasValue (before ++ after) "editor" style →
      readsAsChained? style ≠ some true) :
    groupOfAttributes (before ++ pair :: after) = groupOfAttributes (before ++ after) := by
  obtain ⟨value, hvalue⟩ := Option.isSome_iff_exists.mp hvalue
  have heditor : pair.key ≠ "editor" := by
    rw [hkey]
    decide
  have hpair := decodeGroupAttribute_of_value hvalue heditor
  refine mapM_insert_bind hpair fun first last hfirst hlast => ?_
  refine groupOfFields_insert_editorType hkey fun style hlookup => hstyle style ?_
  have hfields : (before ++ after).mapM decodeAttribute = .ok (first ++ last) := by
    rw [List.mapM_append, (mapM_decodeGroupAttribute_eq_ok_iff.mp hfirst).1,
      (mapM_decodeGroupAttribute_eq_ok_iff.mp hlast).1]
    rfl
  rw [← mem_decoded_iff hfields]
  obtain ⟨earlier, later, heq, _⟩ := List.lookup_eq_some_iff.mp hlookup
  rw [heq]
  exact List.mem_append_right _ List.mem_cons_self

end

/-- Attributes with distinct keys may stand in any order: in each of them the same group and the
same entry are read, namely the declared one, or none. The mode of a group follows from its two
attributes alone. An attribute whose value can be decoded may stand anywhere among the others
without a difference, even to the error, if its key means nothing, and so may an editor type if no
style asks for chained setters. -/
theorem attributes_outcome {attributes reordered : List Attribute}
    (hdistinct : (attributes.map Attribute.key).Nodup) (hperm : reordered.Perm attributes) :
    (∀ group, (groupOfAttributes attributes = .ok group ↔ group.IsDeclaredBy attributes) ∧
      (groupOfAttributes reordered = .ok group ↔ groupOfAttributes attributes = .ok group)) ∧
    (∀ entry, (entryOfAttributes attributes = .ok entry ↔ entry.IsDeclaredBy attributes) ∧
      (entryOfAttributes reordered = .ok entry ↔ entryOfAttributes attributes = .ok entry)) ∧
    (∀ style ∈ attributes, ∀ editorType ∈ attributes, style.key = "editor" →
      editorType.key = "editorType" → ∀ group, groupOfAttributes reordered = .ok group →
        group.editorMode = editorModeOf style.value? editorType.value?) ∧
    ∀ before after pair, before ++ after = attributes → pair.value?.isSome →
      (pair.key ∉ groupKeys →
        groupOfAttributes (before ++ pair :: after) = groupOfAttributes attributes) ∧
      (pair.key ∉ entryKeys →
        entryOfAttributes (before ++ pair :: after) = entryOfAttributes attributes) ∧
      (pair.key = "editorType" →
        (∀ style, HasValue attributes "editor" style → readsAsChained? style ≠ some true) →
          groupOfAttributes (before ++ pair :: after) = groupOfAttributes attributes) := by
  refine ⟨fun group => ⟨groupOfAttributes_eq_ok_iff hdistinct,
      groupOfAttributes_of_perm hdistinct hperm⟩,
    fun entry => ⟨entryOfAttributes_eq_ok_iff hdistinct,
      entryOfAttributes_of_perm hdistinct hperm⟩, ?_, ?_⟩
  · intro style hstyle editorType htype hstyleKey htypeKey group hread
    have hgroup := (groupOfAttributes_of_perm hdistinct hperm).mp hread
    have hdeclared := (groupOfAttributes_eq_ok_iff hdistinct).mp hgroup
    exact hdeclared.editorMode_eq hstyle htype hstyleKey htypeKey
  · rintro before after pair rfl hvalue
    exact ⟨groupOfAttributes_insert hvalue, entryOfAttributes_insert hvalue,
      groupOfAttributes_insert_editorType hvalue⟩

/-- Attributes of a chained group, the editor type first. -/
def chainedAttributes : List Attribute :=
  [⟨"editorType", "SettingsEditor"⟩, ⟨"name", "Audio &amp; Video"⟩, ⟨"editor", "Chained"⟩]

/-- Attributes of a group whose setters are not chained. -/
def immediateAttributes : List Attribute := [⟨"name", "Display"⟩, ⟨"editor", "immediate"⟩]

theorem attributes_outcome_of_chainedAttributes_and_immediateAttributes :
    (chainedAttributes.map Attribute.key).Nodup ∧
      chainedAttributes.reverse.Perm chainedAttributes ∧
      (immediateAttributes.map Attribute.key).Nodup ∧
      groupOfAttributes chainedAttributes.reverse =
        .ok { name := "Audio & Video", editorMode := .chained "SettingsEditor" } ∧
      entryOfAttributes chainedAttributes.reverse = .ok { name := "Audio & Video" } ∧
      groupOfAttributes (⟨"since", "&#50;"⟩ :: chainedAttributes) =
        .ok { name := "Audio & Video", editorMode := .chained "SettingsEditor" } ∧
      entryOfAttributes (⟨"since", "&#50;"⟩ :: chainedAttributes) =
        .ok { name := "Audio & Video" } ∧
      groupOfAttributes (⟨"editorType", "Editor"⟩ :: immediateAttributes) =
        .ok { name := "Display" } := by
  have hchained : (chainedAttributes.map Attribute.key).Nodup := by decide
  have himmediate : (immediateAttributes.map Attribute.key).Nodup := by decide
  have hperm := List.reverse_perm chainedAttributes
  obtain ⟨hgroup, hentry, _, hinsert⟩ := attributes_outcome hchained hperm
  obtain ⟨hgroupInsert, hentryInsert, _⟩ := hinsert [] _ ⟨"since", "&#50;"⟩ rfl (by decide)
  have hgroupRead : groupOfAttributes chainedAttributes =
      .ok { name := "Audio & Video", editorMode := .chained "SettingsEditor" } := by decide
  have hentryRead : entryOfAttributes chainedAttributes = .ok { name := "Audio & Video" } := by
    decide
  have hnotChained : ∀ style, HasValue immediateAttributes "editor" style →
      readsAsChained? style ≠ some true := by
    have hstyles : ∀ pair ∈ immediateAttributes, pair.key = "editor" →
        pair.value?.bind readsAsChained? ≠ some true := by decide
    rintro style ⟨pair, hpair, hkey, hvalue⟩ hchained
    apply hstyles pair hpair hkey
    rw [hvalue]
    exact hchained
  refine ⟨hchained, hperm, himmediate, (hgroup _).2.mpr hgroupRead, (hentry _).2.mpr hentryRead,
    ?_, ?_, ?_⟩
  · exact (hgroupInsert (by decide)).trans hgroupRead
  · exact (hentryInsert (by decide)).trans hentryRead
  · have hwithout : groupOfAttributes immediateAttributes = .ok { name := "Display" } := by decide
    have heditorType := ((attributes_outcome himmediate (.refl _)).2.2.2 [] _
      ⟨"editorType", "Editor"⟩ rfl (by decide)).2.2 rfl hnotChained
    exact heditorType.trans hwithout

/-! ## Tags in a document -/

/-- A tag is read in the same way in any order of its attributes. Inside of an ignored element they
are not even looked at. -/
theorem Reading.step_tag_of_perm {name : String} {attributes reordered : List Attribute}
    (hdistinct : (attributes.map Attribute.key).Nodup) (hperm : reordered.Perm attributes)
    {isEmpty : Bool} {reading next : Reading} :
    reading.step (tagEvent isEmpty ⟨name, reordered⟩) = .ok next ↔
      reading.step (tagEvent isEmpty ⟨name, attributes⟩) = .ok next := by
  obtain ⟨groups, place⟩ := reading
  match place with
  | .outside =>
    cases isEmpty <;> by_cases hname : name = groupElement <;>
      simp [step, stepOutside, tagEvent, hname, map_eq_ok_iff,
        groupOfAttributes_of_perm hdistinct hperm]
  | .inGroup group 0 =>
    cases isEmpty <;> by_cases hname : name = entryElement <;>
      simp [step, stepInGroup, tagEvent, hname, map_eq_ok_iff,
        entryOfAttributes_of_perm hdistinct hperm]
  | .inGroup group (ignored + 1) => cases isEmpty <;> exact Iff.rfl
  | .inEntry group entry content 0 => cases isEmpty <;> exact Iff.rfl
  | .inEntry group entry content (ignored + 1) => cases isEmpty <;> exact Iff.rfl

/-- In the text of a document, the attributes of a tag can be written in another order, with other
blanks between them and in other quotation marks: it declares the same groups, or none. -/
theorem readDeclarations_of_reordered_tag {before after : String} {isEmpty : Bool}
    {first second : List Char} (hfault : (readEvents before).fault? = none)
    (hfirst : IsTagContent isEmpty first) (hsecond : IsTagContent isEmpty second)
    (hname : Tag.nameOf first = Tag.nameOf second)
    (hperm : (readableAttributes first).Perm (readableAttributes second)) (groups : List Group) :
    readDeclarations (before ++ (tagText isEmpty first ++ after)) = .ok groups ↔
      readDeclarations (before ++ (tagText isEmpty second ++ after)) = .ok groups := by
  have hdistinct : ((readableAttributes second).map Attribute.key).Nodup :=
    (isQuotable_ofContent second).distinct
  have hcontents : Tag.ofContent first = ⟨Tag.nameOf second, readableAttributes first⟩ := by
    rw [← hname]
    rfl
  rw [readDeclarations_at_tag hfault hfirst, readDeclarations_at_tag hfault hsecond, hcontents]
  simp only [bind_eq_ok_iff]
  refine exists_congr fun reading => and_congr_right fun _ => exists_congr fun next => ?_
  exact and_congr_left fun _ => Reading.step_tag_of_perm hdistinct hperm

end PrefAccessors
