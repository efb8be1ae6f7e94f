import Mathlib.Data.List.Nodup
import PrefAccessors.Proofs.GroupResolution

/-! # Problems that stay hidden

All problems of a group should be reported at once. Those of types are, and so are
those of names among the entries whose type is known. But an entry of unknown type
is left out before names are checked: a bad name of its own is not seen then, and
neither is a name that it shares with another entry. Nothing else is hidden.
-/

namespace PrefAccessors

open scoped List

section

variable {α : Type} {first second : α} {values : List α}

theorem pair_sublist_or_pair_sublist (hne : first ≠ second) (hfirst : first ∈ values)
    (hsecond : second ∈ values) : [first, second] <+ values ∨ [second, first] <+ values := by
  obtain ⟨before, after, rfl⟩ := List.append_of_mem hsecond
  rw [List.mem_append, List.mem_cons] at hfirst
  rcases hfirst with hbefore | heq | hafter
  · exact Or.inl (pair_sublist_iff.mpr ⟨before, after, rfl, hbefore⟩)
  · exact absurd heq hne
  · exact Or.inr (((List.singleton_sublist.mpr hafter).cons_cons second).trans
      (List.sublist_append_right before (second :: after)))

/-- Among distinct values with a property there is a first one. -/
theorem exists_first (property : α → Prop) (hdistinct : values.Nodup)
    (hexists : ∃ value ∈ values, property value) :
    ∃ first ∈ values, property first ∧ ∀ other, [other, first] <+ values → ¬ property other := by
  induction values with
  | nil => simp at hexists
  | cons head rest ih =>
    obtain ⟨hnot, hdistinct⟩ := List.nodup_cons.mp hdistinct
    by_cases hhead : property head
    · refine ⟨head, List.mem_cons_self, hhead, fun other hpair => ?_⟩
      have hrest : [head] <+ rest := by
        cases hpair with
        | cons _ hpair => exact (List.sublist_cons_self other [head]).trans hpair
        | cons_cons _ hpair => exact hpair
      exact absurd (List.singleton_sublist.mp hrest) hnot
    · have hexists : ∃ value ∈ rest, property value := by
        obtain ⟨value, hvalue, hproperty⟩ := hexists
        rcases List.mem_cons.mp hvalue with rfl | hvalue
        · exact absurd hproperty hhead
        · exact ⟨value, hvalue, hproperty⟩
      obtain ⟨first, hfirst, hproperty, hearlier⟩ := ih hdistinct hexists
      refine ⟨first, List.mem_cons_of_mem head hfirst, hproperty, fun other hpair => ?_⟩
      cases hpair with
      | cons _ hpair => exact hearlier other hpair
      | cons_cons _ _ => exact hhead

end

/-- What is wrong with the entries of a group is in a list of problems, whatever their types are:
every unknown spelling, every accessor name that is no identifier, and every entry that repeats
an earlier accessor name. -/
structure Group.AllReported (group : Group) (problems : List Problem) : Prop where
  defaultType : ∀ spelling ∈ group.defaultTypeSpelling?, ValueType.ofSpelling? spelling = none →
    .unsupportedType Group.defaultTypeField spelling ∈ problems
  types : ∀ entry ∈ group.entries, ∀ spelling ∈ entry.typeSpelling?,
    ValueType.ofSpelling? spelling = none → .unsupportedType entry.name spelling ∈ problems
  names : ∀ entry ∈ group.entries, ¬ Name.isIdentifier entry.accessor →
    .invalidFieldName entry.name entry.accessor ∈ problems
  repetitions : group.entries.Pairwise fun earlier later =>
    earlier.accessor = later.accessor → Name.isIdentifier later.accessor →
      ∃ first, .duplicateAccessorName later.accessor first later.name ∈ problems

/-- An entry of unknown type has no other problem: its accessor name is an identifier, and no
other entry has it. -/
structure Group.HidesNothing (group : Group) : Prop where
  names : ∀ entry ∈ group.entries, ¬ IsReadable entry.typeSpelling? →
    Name.isIdentifier entry.accessor
  repetitions : group.entries.Pairwise fun earlier later =>
    earlier.accessor = later.accessor → Name.isIdentifier later.accessor →
      IsReadable earlier.typeSpelling? ∧ IsReadable later.typeSpelling?

/-- The problems that resolving a group brings up. -/
def Group.reported (group : Group) : List Problem :=
  match group.resolve with
  | .ok _ => []
  | .error error => error.problems

namespace Group

variable {group : Group}

theorem reported_eq_problems : group.reported = group.problems := by
  unfold reported
  split
  next resolved hresolve => exact (exists_resolve_eq_ok_iff.mp ⟨resolved, hresolve⟩).symm
  next error herror => rw [(resolve_eq_error_iff.mp herror).2]

theorem mem_withKnownTypes_iff {entry : Entry} :
    entry ∈ group.withKnownTypes.entries ↔
      entry ∈ group.entries ∧ IsReadable entry.typeSpelling? := by
  rw [withKnownTypes, List.mem_filter, Entry.hasKnownType_iff]

theorem pair_sublist_withKnownTypes_iff {earlier later : Entry} :
    [earlier, later] <+ group.withKnownTypes.entries ↔
      [earlier, later] <+ group.entries ∧
        IsReadable earlier.typeSpelling? ∧ IsReadable later.typeSpelling? := by
  constructor
  · intro hpair
    have hearlier := hpair.subset List.mem_cons_self
    have hlater := hpair.subset (List.mem_cons_of_mem earlier List.mem_cons_self)
    exact ⟨hpair.trans List.filter_sublist, (mem_withKnownTypes_iff.mp hearlier).2,
      (mem_withKnownTypes_iff.mp hlater).2⟩
  · rintro ⟨hpair, hearlier, hlater⟩
    have hkept := hpair.filter Entry.hasKnownType
    rwa [List.filter_eq_self.mpr] at hkept
    simp only [List.mem_pair, forall_eq_or_imp, forall_eq, Entry.hasKnownType_iff]
    exact ⟨hearlier, hlater⟩

/-! ## What is always reported -/

theorem unsupportedType_default_mem_problems {spelling : String}
    (hspelling : group.defaultTypeSpelling? = some spelling)
    (hunknown : ValueType.ofSpelling? spelling = none) :
    .unsupportedType defaultTypeField spelling ∈ group.problems :=
  List.mem_append_left _ (mem_typeProblems_iff.mpr (Or.inl ⟨spelling, hspelling, hunknown, rfl⟩))

theorem unsupportedType_mem_problems {entry : Entry} (hentry : entry ∈ group.entries)
    {spelling : String} (hspelling : entry.typeSpelling? = some spelling)
    (hunknown : ValueType.ofSpelling? spelling = none) :
    .unsupportedType entry.name spelling ∈ group.problems :=
  List.mem_append_left _
    (mem_typeProblems_iff.mpr (Or.inr ⟨entry, hentry, spelling, hspelling, hunknown, rfl⟩))

theorem invalidFieldName_mem_problems {entry : Entry}
    (hentry : entry ∈ group.withKnownTypes.entries) (hname : ¬ Name.isIdentifier entry.accessor) :
    .invalidFieldName entry.name entry.accessor ∈ group.problems :=
  List.mem_append_right _ <|
    Preference.invalidFieldName_mem_problems
      (List.mem_map_of_mem (f := Entry.preference group.defaultType?) hentry) hname

theorem duplicateAccessorName_mem_problems {earlier later : Entry}
    (hpair : [earlier, later] <+ group.withKnownTypes.entries)
    (haccessor : earlier.accessor = later.accessor) (hname : Name.isIdentifier later.accessor) :
    ∃ first, .duplicateAccessorName later.accessor first later.name ∈ group.problems := by
  obtain ⟨first, hfirst⟩ := Preference.duplicateAccessorName_mem_problems
    (hpair.map (Entry.preference group.defaultType?)) haccessor hname
  exact ⟨first, List.mem_append_right _ hfirst⟩

/-- The report is complete if no entry of unknown type has another problem. -/
theorem HidesNothing.allReported (hhides : group.HidesNothing) :
    group.AllReported group.problems where
  defaultType _ hspelling hunknown := unsupportedType_default_mem_problems hspelling hunknown
  types _ hentry _ hspelling hunknown := unsupportedType_mem_problems hentry hspelling hunknown
  names entry hentry hname := by
    have hreadable : IsReadable entry.typeSpelling? := by
      by_contra hunknown
      exact hname (hhides.names entry hentry hunknown)
    exact invalidFieldName_mem_problems (mem_withKnownTypes_iff.mpr ⟨hentry, hreadable⟩) hname
  repetitions := List.pairwise_iff_forall_sublist.mpr fun hpair haccessor hname =>
    have hreadable := List.pairwise_iff_forall_sublist.mp hhides.repetitions hpair haccessor hname
    duplicateAccessorName_mem_problems (pair_sublist_withKnownTypes_iff.mpr ⟨hpair, hreadable⟩)
      haccessor hname

/-! ## What a complete report says -/

/-- The problems with names are those of the entries whose type is known. -/
theorem isTrueOf_withKnownTypes_of_mem_problems {problem : Problem} (hmem : problem ∈ group.problems)
    (htype : ∀ field spelling, problem ≠ .unsupportedType field spelling) :
    problem.IsTrueOf group.withKnownTypes := by
  rw [problems, List.mem_append] at hmem
  rcases hmem with hmem | hmem
  · rcases mem_typeProblems_iff.mp hmem with
      ⟨spelling, _, _, rfl⟩ | ⟨entry, _, spelling, _, _, rfl⟩
    · exact absurd rfl (htype defaultTypeField spelling)
    · exact absurd rfl (htype entry.name spelling)
  · exact isTrueOf_withKnownTypes hmem

/-- With distinct names a report on an entry that is left can be about no other entry. -/
theorem eq_of_name_eq (hnames : (group.entries.map Entry.name).Nodup) {entry kept : Entry}
    (hentry : entry ∈ group.entries) (hkept : kept ∈ group.withKnownTypes.entries)
    (hname : entry.name = kept.name) : entry = kept :=
  List.inj_on_of_nodup_map hnames hentry (mem_withKnownTypes_iff.mp hkept).1 hname

theorem isIdentifier_of_allReported (hnames : (group.entries.map Entry.name).Nodup)
    (hreported : group.AllReported group.problems) {entry : Entry} (hentry : entry ∈ group.entries)
    (hunknown : ¬ IsReadable entry.typeSpelling?) : Name.isIdentifier entry.accessor := by
  by_contra hname
  obtain ⟨kept, hkept, hfield, _⟩ :=
    isTrueOf_withKnownTypes_of_mem_problems (hreported.names entry hentry hname) nofun
  obtain rfl := eq_of_name_eq hnames hentry hkept hfield
  exact hunknown (mem_withKnownTypes_iff.mp hkept).2

/-- A repetition is reported only if some entry before it has the accessor name and a known
type. -/
theorem exists_earlier_of_allReported (hnames : (group.entries.map Entry.name).Nodup)
    (hreported : group.AllReported group.problems) {earlier later : Entry}
    (hpair : [earlier, later] <+ group.entries) (haccessor : earlier.accessor = later.accessor)
    (hname : Name.isIdentifier later.accessor) :
    ∃ kept, [kept, later] <+ group.withKnownTypes.entries ∧ kept.accessor = later.accessor := by
  obtain ⟨first, hmem⟩ :=
    List.pairwise_iff_forall_sublist.mp hreported.repetitions hpair haccessor hname
  obtain ⟨kept, other, hkept, _, hsecond, hsame, _⟩ :=
    isTrueOf_withKnownTypes_of_mem_problems hmem nofun
  have hother := hkept.subset (List.mem_cons_of_mem kept List.mem_cons_self)
  have hlater := hpair.subset (List.mem_cons_of_mem earlier List.mem_cons_self)
  obtain rfl := eq_of_name_eq hnames hlater hother hsecond
  exact ⟨kept, hkept, hsame⟩

theorem isReadable_of_allReported (hnames : (group.entries.map Entry.name).Nodup)
    (hreported : group.AllReported group.problems) {earlier later : Entry}
    (hpair : [earlier, later] <+ group.entries) (haccessor : earlier.accessor = later.accessor)
    (hname : Name.isIdentifier later.accessor) :
    IsReadable earlier.typeSpelling? ∧ IsReadable later.typeSpelling? := by
  obtain ⟨kept, hkept, hsame⟩ := exists_earlier_of_allReported hnames hreported hpair haccessor hname
  refine ⟨?_, (pair_sublist_withKnownTypes_iff.mp hkept).2.2⟩
  -- The first entry with the name whose type is known is not preceded by another one. If the
  -- earlier entry came before it, the report on it would have nothing to refer to.
  have hdistinct : group.withKnownTypes.entries.Nodup :=
    (List.Nodup.of_map Entry.name hnames).sublist List.filter_sublist
  obtain ⟨first, hfirst, hfirstSame, hnone⟩ := exists_first
    (fun entry => entry.accessor = later.accessor) hdistinct
    ⟨kept, hkept.subset List.mem_cons_self, hsame⟩
  obtain ⟨hfirstMem, hfirstReadable⟩ := mem_withKnownTypes_iff.mp hfirst
  by_cases heq : earlier = first
  · exact heq ▸ hfirstReadable
  rcases pair_sublist_or_pair_sublist heq (hpair.subset List.mem_cons_self) hfirstMem with
    hbefore | hafter
  · obtain ⟨other, hother, hotherSame⟩ := exists_earlier_of_allReported hnames hreported hbefore
      (haccessor.trans hfirstSame.symm) (hfirstSame ▸ hname)
    exact absurd (hotherSame.trans hfirstSame) (hnone other hother)
  · obtain ⟨other, hother, _⟩ := exists_earlier_of_allReported hnames hreported hafter
      (hfirstSame.trans haccessor.symm) (haccessor ▸ hname)
    exact (pair_sublist_withKnownTypes_iff.mp hother).2.2

/-- All problems of a group whose entries have distinct names are reported exactly if no entry of
unknown type has another problem. -/
theorem allReported_iff_hidesNothing {group : Group}
    (hnames : (group.entries.map Entry.name).Nodup) :
    group.AllReported group.reported ↔ group.HidesNothing := by
  rw [reported_eq_problems]
  constructor
  · intro hreported
    exact
      { names := fun entry => isIdentifier_of_allReported hnames hreported
        repetitions := List.pairwise_iff_forall_sublist.mpr
          (isReadable_of_allReported hnames hreported) }
  · exact HidesNothing.allReported

end Group

/-- A group in which an unknown type is the only problem of its entry. -/
def plainlyBrokenGroup : Group := {
  name := "Player"
  entries := [
    { name := "ratio", typeSpelling? := some "double" }, { name := "volume" },
    { name := "VOLUME" }] }

theorem allReported_of_plainlyBrokenGroup :
    (plainlyBrokenGroup.entries.map Entry.name).Nodup ∧
      plainlyBrokenGroup.AllReported plainlyBrokenGroup.reported :=
  have hhides : plainlyBrokenGroup.HidesNothing := ⟨by decide, by decide⟩
  ⟨by decide, (Group.allReported_iff_hidesNothing (by decide)).mpr hhides⟩

/-- Two entries of unknown type, one with a bad name and one whose accessor name is repeated. -/
def hidingGroup : Group := {
  name := "Player"
  entries := [
    { name := "font-size", typeSpelling? := some "double" },
    { name := "volume", typeSpelling? := some "double" }, { name := "VOLUME" }] }

/-- Only the unknown types of such a group are reported. -/
theorem unreported_of_hidingGroup :
    hidingGroup.resolve = .error ⟨"Player",
      [.unsupportedType "font-size" "double", .unsupportedType "volume" "double"]⟩ ∧
        ¬ hidingGroup.AllReported hidingGroup.reported := by
  refine ⟨by decide, fun hreported => ?_⟩
  have hname := hreported.names _ List.mem_cons_self (by decide)
  exact absurd hname (by decide)

end PrefAccessors
