import ThemeOptions.Proofs.EditedCollections
import ThemeOptions.Proofs.FilteredDefaults

/-!
# Changes to sections and contributions

Sections gain and lose options and get defaults set; contributions gain sections, whose options
change as well, be it by the section's id or by the option's alone.  Whatever the changes are, ids
stay distinct and things are found under their own, what is there stands in the order in which it
was added last, and each change reaches what it names and nothing else (`changes_keep_order`).

The changes to a contribution reach its sections as changes to these (`Contribution.reaching`), so
the options of its sections keep their order too.
-/

namespace ThemeOptions

/-! ### Sections -/

/-- A change to a section. -/
inductive SectionChange where
  | insert (e : Entry)
  | remove (id : String)
  | setDefault (id : String) (v : Option Value)

/-- A change to a section as one to its options. -/
def SectionChange.edit : SectionChange → Keyed.Edit Entry Entry.id
  | .insert e => .insert e
  | .remove id => .erase id
  | .setDefault id v =>
    .revise (fun _ e => if e.id == id then e.withDefault v else e) fun _ e => by split <;> rfl

/-- The default that a change sets for an option. -/
def SectionChange.defaultFor? (option : String) : SectionChange → Option (Option Value)
  | .setDefault id v => if id == option then some v else none
  | _ => none

/-- The default that several changes leave an option with if it stays: what is set last. -/
def lastDefault (changes : List SectionChange) (e : Entry) : Option Value :=
  (changes.filterMap (SectionChange.defaultFor? e.id)).getLast?.getD e.default

namespace Section

def change (s : Section) : SectionChange → Section
  | .insert e => (s.insert e).2
  | .remove id => (s.remove id).2
  | .setDefault id v => s.setDefault id v

/-- The section after several changes. -/
def changeAll (s : Section) (changes : List SectionChange) : Section := changes.foldl change s

theorem options_change (s : Section) (ch : SectionChange) :
    (s.change ch).options = s.options.edit ch.edit := by
  cases ch <;> rfl

theorem change_eq (s : Section) (ch : SectionChange) :
    s.change ch = { s with options := (s.change ch).options } := by
  cases ch <;> rfl

theorem options_changeAll (s : Section) (changes : List SectionChange) :
    (s.changeAll changes).options = s.options.editAll (changes.map SectionChange.edit) := by
  induction changes generalizing s with
  | nil => rfl
  | cons ch later ih =>
    rw [changeAll, List.foldl_cons, ← changeAll, ih, options_change]
    rfl

/-- Only options change. -/
theorem changeAll_eq (s : Section) (changes : List SectionChange) :
    s.changeAll changes = { s with options := (s.changeAll changes).options } := by
  induction changes generalizing s with
  | nil => rfl
  | cons ch later ih =>
    rw [changeAll, List.foldl_cons, ← changeAll]
    have hstep := change_eq s ch
    generalize s.change ch = s' at hstep
    rw [ih s', hstep]

theorem id_change (s : Section) (ch : SectionChange) : (s.change ch).id = s.id := by
  rw [change_eq]

theorem id_changeAll (s : Section) (changes : List SectionChange) :
    (s.changeAll changes).id = s.id := by
  rw [changeAll_eq]

/-- Options that stay have the default that was set last. -/
theorem lastForm_eq (s : Section) (changes : List SectionChange) (e : Entry) :
    s.options.lastForm (changes.map SectionChange.edit) e =
      e.withDefault (lastDefault changes e) := by
  induction changes generalizing s e with
  | nil => rfl
  | cons ch later ih =>
    rw [List.map_cons, Keyed.lastForm, ← options_change, ih]
    cases ch with
    | insert e' => rfl
    | remove id => rfl
    | setDefault id v =>
      by_cases hid : id = e.id
      · have hrevised : (SectionChange.setDefault id v).edit.revised s.options e =
            e.withDefault v := if_pos (beq_iff_eq.mpr hid.symm)
        have hset : (SectionChange.setDefault id v).defaultFor? e.id = some v :=
          if_pos (beq_iff_eq.mpr hid)
        rw [hrevised, lastDefault, lastDefault, List.filterMap_cons_some hset, List.getLast?_cons]
        rfl
      · have hrevised : (SectionChange.setDefault id v).edit.revised s.options e = e :=
          if_neg (by simpa using Ne.symm hid)
        have hset : (SectionChange.setDefault id v).defaultFor? e.id = none :=
          if_neg (by simpa using hid)
        rw [hrevised, lastDefault, lastDefault, List.filterMap_cons_none hset]

end Section

/-! ### Contributions -/

/-- A change to a contribution. -/
inductive ContributionChange where
  | insert (s : Section)
  /-- A change to the section with an id, if it is there. -/
  | within (id : String) (ch : SectionChange)
  /-- A default for the first option with an id. -/
  | setDefault (option : String) (v : Option Value)

namespace Contribution

/-- The change that a change to a contribution makes to the section with an id, if it is one of
those in the contribution. -/
def reaching (c : Contribution) (id : String) : ContributionChange → List SectionChange
  | .insert _ => []
  | .within id' ch => if id' == id then [ch] else []
  | .setDefault option v =>
    if c.isFirst id option then [.setDefault option v] else []

def change (c : Contribution) : ContributionChange → Contribution
  | .insert s => (c.insert s).2
  | .within id ch => c.modify id (·.change ch) (Section.id_change · ch)
  | .setDefault option v => c.setDefault option v

/-- The contribution after several changes. -/
def changeAll (c : Contribution) (changes : List ContributionChange) : Contribution :=
  changes.foldl change c

/-- The changes that several changes to a contribution make to the section with an id. -/
def reachingAll (c : Contribution) (id : String) : List ContributionChange → List SectionChange
  | [] => []
  | ch :: later => c.reaching id ch ++ (c.change ch).reachingAll id later

end Contribution

/-- A change to a contribution as one to its sections. -/
def ContributionChange.edit : ContributionChange → Keyed.Edit Section Section.id
  | .insert s => .insert s
  | ch =>
    .revise (fun sections s => s.changeAll (Contribution.reaching ⟨sections⟩ s.id ch))
      fun _ s => s.id_changeAll _

namespace Contribution

theorem sections_change (c : Contribution) (ch : ContributionChange) :
    (c.change ch).sections = c.sections.edit ch.edit := by
  cases ch with
  | insert s => rfl
  | within id ch =>
    refine Keyed.ext (List.map_congr_left fun s _ => ?_)
    show (if s.id == id then s.change ch else s) = s.changeAll (if id == s.id then [ch] else [])
    by_cases hid : s.id = id
    · rw [if_pos (beq_iff_eq.mpr hid), if_pos (beq_iff_eq.mpr hid.symm)]
      rfl
    · rw [if_neg (by simpa using hid), if_neg (by simpa using Ne.symm hid)]
      rfl
  | setDefault option v =>
    refine Keyed.ext ((c.toList_setDefault_eq option v).trans (List.map_congr_left fun s _ => ?_))
    show _ = s.changeAll (if c.isFirst s.id option then [.setDefault option v] else [])
    split <;> rfl

theorem sections_changeAll (c : Contribution) (changes : List ContributionChange) :
    (c.changeAll changes).sections =
      c.sections.editAll (changes.map ContributionChange.edit) := by
  induction changes generalizing c with
  | nil => rfl
  | cons ch later ih =>
    rw [changeAll, List.foldl_cons, ← changeAll, ih, sections_change]
    rfl

/-- Sections that stay have made the changes that reached them. -/
theorem lastForm_eq (c : Contribution) (changes : List ContributionChange) (s : Section) :
    c.sections.lastForm (changes.map ContributionChange.edit) s =
      s.changeAll (c.reachingAll s.id changes) := by
  induction changes generalizing c s with
  | nil => rfl
  | cons ch later ih =>
    have hrevised : ch.edit.revised c.sections s = s.changeAll (c.reaching s.id ch) := by
      cases ch <;> rfl
    rw [List.map_cons, Keyed.lastForm, ← sections_change, ih, hrevised, Section.id_changeAll,
      reachingAll, Section.changeAll, Section.changeAll, Section.changeAll, List.foldl_append]

/-- A default is set in the first section that has the option, and nothing else changes. -/
def SetsFirst (c : Contribution) (option : String) (v : Option Value) (c' : Contribution) : Prop :=
  (∃ l₁ s l₂, c.sections.toList = l₁ ++ s :: l₂ ∧ (∀ t ∈ l₁, option ∉ t.options.keys) ∧
    option ∈ s.options.keys ∧ c'.sections.toList = l₁ ++ s.setDefault option v :: l₂) ∨
  (∀ t ∈ c.sections.toList, option ∉ t.options.keys) ∧ c' = c

theorem setsFirst_setDefault (c : Contribution) (option : String) (v : Option Value) :
    c.SetsFirst option v (c.setDefault option v) := by
  unfold setDefault
  cases hfirst : c.sectionOf? option with
  | none =>
    refine .inr ⟨fun t ht => ?_, rfl⟩
    rw [← Keyed.contains_iff]
    exact List.find?_eq_none.mp hfirst t ht
  | some s =>
    obtain ⟨hhas, l₁, l₂, hlist, hbefore⟩ := List.find?_eq_some_iff_append.mp hfirst
    refine .inl ⟨l₁, s, l₂, hlist, fun t ht => ?_, Keyed.contains_iff.mp hhas,
      Keyed.toList_modify_of_split hlist (·.setDefault option v) fun _ => rfl⟩
    rw [← Keyed.contains_iff]
    simpa using hbefore t ht

end Contribution

/-! ### Both -/

/-- **Order and identity through any changes.**  After any changes to a section or a contribution,
ids are distinct and things are found under their own ids; what is there is what has been added and
not taken out since, at the place of the addition that succeeded last, and as the changes since then
that reach it have left it.  Whatever has happened before, a thing is added at the end if its id is
free and not at all if it is taken, which the flag tells; removing takes out the option named and
leaves the others where they are; and a default is set in the option named, in a contribution in the
first section that has the option, and nothing else changes. -/
theorem changes_keep_order :
    (∀ (s : Section) (changes : List SectionChange),
      let s' := s.changeAll changes
      s' = { s with options := s'.options } ∧
      s.options.Follows (changes.map SectionChange.edit) s'.options ∧
      (∀ e, s.options.lastForm (changes.map SectionChange.edit) e =
        e.withDefault (lastDefault changes e)) ∧
      (∀ e, s'.options.Appends e (s'.insert e).1 (s'.insert e).2.options) ∧
      (∀ id, s'.options.TakesOut id (s'.remove id).1 (s'.remove id).2.options) ∧
      ∀ id v, s'.options.ChangesOne id (·.withDefault v) (s'.setDefault id v).options) ∧
    ∀ (c : Contribution) (changes : List ContributionChange),
      let c' := c.changeAll changes
      c.sections.Follows (changes.map ContributionChange.edit) c'.sections ∧
      (∀ s, c.sections.lastForm (changes.map ContributionChange.edit) s =
        s.changeAll (c.reachingAll s.id changes)) ∧
      (∀ s, c'.sections.Appends s (c'.insert s).1 (c'.insert s).2.sections) ∧
      (∀ id ch, c'.sections.ChangesOne id (·.change ch) (c'.change (.within id ch)).sections) ∧
      ∀ option v, c'.SetsFirst option v (c'.setDefault option v) := by
  refine ⟨fun s changes => ⟨s.changeAll_eq changes, ?_, s.lastForm_eq changes, fun e => ?_,
    fun id => ?_, fun id v => ?_⟩, fun c changes => ⟨?_, c.lastForm_eq changes, fun s => ?_,
    fun id ch => ?_, fun option v => ?_⟩⟩
  · rw [Section.options_changeAll]
    exact Keyed.follows_editAll _ _
  · exact Keyed.appends_insert _ e
  · exact Keyed.takesOut_erase _ id
  · exact (s.changeAll changes).options.changesOne_modify id (·.withDefault v) fun _ => rfl
  · rw [Contribution.sections_changeAll]
    exact Keyed.follows_editAll _ _
  · exact Keyed.appends_insert _ s
  · exact (c.changeAll changes).sections.changesOne_modify id (·.change ch) (Section.id_change · ch)
  · exact Contribution.setsFirst_setDefault _ option v

/-- An option that is removed and added again comes last, and one that is added twice stays where it
is. -/
example :
    (Section.changeAll { id := "colors" }
      [.insert { id := "accent" }, .insert { id := "paper" }, .insert { id := "links" },
        .remove "accent", .insert { id := "paper" }, .insert { id := "accent" }]).options.keys =
      ["paper", "links", "accent"] := by
  decide +kernel

end ThemeOptions
