import ThemeOptions.Manifest

/-!
# Defaults set by a filter

A filter of a manifest looks every option up by its id and sets its default.  An id can stand in
several sections of a contribution, and then only the first of them is changed
(`Manifest.toList_setDefaults`): everything else of a contribution stays as it is, and so do the
further options with the id, although the application's own defaults reach every section
(`Registry.supplyDefault`).
-/

namespace ThemeOptions

/-! ### Named defaults -/

/-- The value that is named last for an id. -/
def lastNamed? (defaults : List (String × Value)) (id : String) : Option Value :=
  (defaults.reverse.find? (·.1 == id)).map Prod.snd

theorem lastNamed?_cons (id : String) (v : Value) (defaults : List (String × Value))
    (option : String) :
    lastNamed? ((id, v) :: defaults) option =
      (lastNamed? defaults option).or (if id == option then some v else none) := by
  unfold lastNamed?
  rw [List.reverse_cons, List.find?_append, Option.map_or]
  cases h : id == option with
  | true => simp [h]
  | false => simp [h]

theorem lastNamed?_singleton (id : String) (v : Value) (option : String) :
    lastNamed? [(id, v)] option = if id == option then some v else none :=
  lastNamed?_cons id v [] option

namespace Entry

/-- An option that gets the default which is named last for its id, if it is a chosen one. -/
def override (chosen : String → Bool) (defaults : List (String × Value)) (e : Entry) : Entry :=
  if chosen e.id then e.withDefault ((lastNamed? defaults e.id).or e.default) else e

variable {chosen : String → Bool} {defaults : List (String × Value)}

@[simp] theorem id_override (e : Entry) : (e.override chosen defaults).id = e.id := by
  unfold override
  split <;> rfl

theorem withDefault_default (e : Entry) : e.withDefault e.default = e := rfl

theorem override_of_lastNamed?_eq_none {e : Entry} (h : lastNamed? defaults e.id = none) :
    e.override chosen defaults = e := by
  rw [override, h, Option.none_or, withDefault_default, ite_self]

/-- What is named first counts less. -/
theorem override_override (id : String) (v : Value) (e : Entry) :
    (e.override chosen [(id, v)]).override chosen defaults =
      e.override chosen ((id, v) :: defaults) := by
  by_cases h : chosen e.id = true
  · have hfirst : e.override chosen [(id, v)] =
        e.withDefault ((if id == e.id then some v else none).or e.default) := by
      rw [override, if_pos h, lastNamed?_singleton]
    rw [hfirst, override, override, id_withDefault, if_pos h, if_pos h, lastNamed?_cons,
      Option.or_assoc]
    rfl
  · rw [override, id_override, if_neg h, override, if_neg h, override, if_neg h]

end Entry

namespace Section

/-- A section whose chosen options get the defaults that are named last for them. -/
def override (chosen : String → Bool) (defaults : List (String × Value)) (s : Section) : Section :=
  { s with options := s.options.map (Entry.override chosen defaults) Entry.id_override }

variable {chosen : String → Bool} {defaults : List (String × Value)}

theorem contains_override (s : Section) (id : String) :
    (s.override chosen defaults).options.contains id = s.options.contains id := by
  rw [Bool.eq_iff_iff, Keyed.contains_iff, Keyed.contains_iff]
  exact iff_of_eq (congrArg (id ∈ ·) (Keyed.keys_map s.options _ Entry.id_override))

theorem override_eq_self {s : Section} (h : ∀ e : Entry, e.override chosen defaults = e) :
    s.override chosen defaults = s := by
  have hoptions : s.options.map (Entry.override chosen defaults) Entry.id_override = s.options :=
    Keyed.ext ((List.map_congr_left fun e _ => h e).trans (List.map_id _))
  rw [override, hoptions]

theorem override_override (id : String) (v : Value) (s : Section) :
    (s.override chosen [(id, v)]).override chosen defaults =
      s.override chosen ((id, v) :: defaults) := by
  have hoptions : (s.options.map (Entry.override chosen [(id, v)]) Entry.id_override).map
      (Entry.override chosen defaults) Entry.id_override =
        s.options.map (Entry.override chosen ((id, v) :: defaults)) Entry.id_override := by
    refine Keyed.ext ?_
    rw [Keyed.toList_map, Keyed.toList_map, Keyed.toList_map, List.map_map]
    exact List.map_congr_left fun e _ => Entry.override_override id v e
  rw [override, override, override, hoptions]

theorem override_singleton_of_chosen {id : String} (h : chosen id = true) (v : Value)
    (s : Section) : s.override chosen [(id, v)] = s.setDefault id (some v) := by
  unfold override setDefault Keyed.modify
  congr 2
  funext e
  rw [Entry.override, lastNamed?_singleton]
  by_cases hid : e.id = id
  · simp [hid, h]
  · simp [hid, Ne.symm hid, Entry.withDefault_default]

theorem override_singleton_of_not_chosen {id : String} (h : chosen id = false) (v : Value)
    (s : Section) : s.override chosen [(id, v)] = s := by
  refine override_eq_self fun e => ?_
  by_cases hid : id = e.id
  · rw [Entry.override, ← hid, h]
    rfl
  · exact Entry.override_of_lastNamed?_eq_none (by simp [lastNamed?_singleton, hid])

end Section

namespace Contribution

variable (c : Contribution)

/-- Whether a section is the first one of a contribution that has an option. -/
def isFirst (id : String) (option : String) : Bool :=
  (c.sectionOf? option).any (·.id == id)

/-- A default is set in the first section that has the option; ids of sections are distinct, so that
section is known by its id. -/
theorem toList_setDefault_eq (option : String) (v : Option Value) :
    (c.setDefault option v).sections.toList =
      c.sections.toList.map fun s =>
        if c.isFirst s.id option then s.setDefault option v else s := by
  unfold setDefault isFirst
  cases c.sectionOf? option with
  | none => exact (List.map_id' _).symm
  | some first =>
    refine List.map_congr_left fun s _ => ?_
    rw [Option.any_some, Bool.beq_comm]

/-- One default is set in the first section that has the option. -/
theorem toList_setDefault (id : String) (v : Value) :
    (c.setDefault id (some v)).sections.toList =
      c.sections.toList.map fun s => s.override (c.isFirst s.id) [(id, v)] := by
  rw [toList_setDefault_eq]
  refine List.map_congr_left fun s _ => ?_
  cases hfirst : c.isFirst s.id id with
  | false =>
    rw [Section.override_singleton_of_not_chosen hfirst]
    rfl
  | true =>
    rw [Section.override_singleton_of_chosen hfirst]
    rfl

/-- Setting a default leaves the options where they are. -/
theorem isFirst_setDefault (id : String) (v : Value) :
    (c.setDefault id (some v)).isFirst = c.isFirst := by
  funext sec option
  have hfind : (c.setDefault id (some v)).sectionOf? option =
      (c.sectionOf? option).map fun s => s.override (c.isFirst s.id) [(id, v)] := by
    rw [sectionOf?, toList_setDefault, List.find?_map, sectionOf?]
    refine congrArg (Option.map _ <| List.find? · _) (funext fun s => ?_)
    exact Section.contains_override s option
  rw [isFirst, hfind, Option.any_map]
  rfl

end Contribution

namespace Manifest

/-- **Which defaults a filter sets.**  In the first section that has it, every option gets the value
that is named last for it. -/
theorem toList_setDefaults (defaults : List (String × Value)) (c : Contribution) :
    (setDefaults defaults c).sections.toList =
      c.sections.toList.map fun s => s.override (c.isFirst s.id) defaults := by
  induction defaults generalizing c with
  | nil =>
    refine ((List.map_congr_left fun s _ => ?_).trans (List.map_id _)).symm
    exact Section.override_eq_self fun e => Entry.override_of_lastNamed?_eq_none rfl
  | cons pair defaults ih =>
    obtain ⟨id, v⟩ := pair
    -- no default moves an option, so later ones find the same first sections
    show (setDefaults defaults (c.setDefault id (some v))).sections.toList = _
    rw [ih, c.isFirst_setDefault, c.toList_setDefault, List.map_map]
    exact List.map_congr_left fun s _ => Section.override_override id v s

/-- **What a filter does.**  It has the id, the target and the priority of its description, and it
never fails.  Of a contribution it changes nothing but defaults, and these only in the first section
that has the option.  So all options with a named id have the named default just when those in the
further sections have had it before. -/
theorem filter_overrides {spec : FilterSpec} {f : Filter} (h : filter spec = .ok f) :
    f.id = spec.id ∧ f.target = spec.target ∧ f.priority = spec.priority ∧
    ∃ defaults, readValues spec.defaults = .ok defaults ∧
      ∀ context c, ∃ c', f.run context c = .ok c' ∧
        c'.sections.toList =
          c.sections.toList.map (fun s => s.override (c.isFirst s.id) defaults) ∧
        ∀ id v, lastNamed? defaults id = some v →
          ((∀ s ∈ c'.sections.toList, ∀ e ∈ s.options.toList, e.id = id → e.default = some v) ↔
            ∀ s ∈ c.sections.toList, ∀ e ∈ s.options.toList, e.id = id →
              c.isFirst s.id id = false → e.default = some v) := by
  unfold filter at h
  split at h
  · cases h
  rename_i defaults hdefaults
  obtain rfl := Except.ok.inj h
  refine ⟨rfl, rfl, rfl, defaults, hdefaults, fun context c => ⟨setDefaults defaults c, rfl,
    toList_setDefaults defaults c, fun id v hv => ⟨fun hall s hs e he hid hlater => ?_,
      fun hlater s' hs' e' he' hid => ?_⟩⟩⟩
  · have hkept : e.override (c.isFirst s.id) defaults = e := by
      rw [Entry.override, hid, hlater]
      rfl
    have hmem : s.override (c.isFirst s.id) defaults ∈ (setDefaults defaults c).sections.toList := by
      rw [toList_setDefaults]
      exact List.mem_map_of_mem hs
    have hoption := List.mem_map_of_mem (f := Entry.override (c.isFirst s.id) defaults) he
    rw [hkept] at hoption
    exact hall _ hmem e hoption hid
  · rw [toList_setDefaults] at hs'
    obtain ⟨s, hs, rfl⟩ := List.mem_map.mp hs'
    obtain ⟨e, he, rfl⟩ := List.mem_map.mp he'
    rw [Entry.id_override] at hid
    rw [Entry.override, hid]
    cases hfirst : c.isFirst s.id id with
    | true => rw [hv]; rfl
    | false => exact hlater s hs e he hid hfirst

end Manifest

namespace Sample

/-- A header and a footer that both have an accent, the header without a default. -/
def accents (footer : Value) : Contribution where
  sections := Keyed.ofList
    [{ id := "header", options := Keyed.ofList [{ id := "accent", default := some .unset }] },
     { id := "footer"
       options := Keyed.ofList [{ id := "note" }, { id := "accent", default := some footer }] }]

/-- A filter that sets the accent. -/
def brand : FilterSpec := ⟨"brand", "theme", 10, [(.string "accent", .string "blue")]⟩

/-- The default of the accent in every section that has one. -/
def accentDefaults (c : Contribution) : List (Option Value) :=
  c.sections.toList.filterMap fun s => (s.option? "accent").map Entry.default

end Sample

/-- All accents are blue if that of the footer has been. -/
theorem filter_overrides_brand :
    ∃ f, Manifest.filter Sample.brand = .ok f ∧ f.target = "theme" ∧
      ∃ c', f.run ⟨{}, .null, "theme"⟩ (Sample.accents (.text "blue")) = .ok c' ∧
        ∀ s ∈ c'.sections.toList, ∀ e ∈ s.options.toList, e.id = "accent" →
          e.default = some (.text "blue") := by
  have hfilter : Manifest.filter Sample.brand = .ok _ := rfl
  obtain ⟨-, htarget, -, defaults, hdefaults, hrun⟩ := Manifest.filter_overrides hfilter
  have hread : Except.ok [("accent", .text "blue")] = Except.ok defaults := hdefaults
  obtain rfl := Except.ok.inj hread
  obtain ⟨c', hc', -, hall⟩ := hrun ⟨{}, .null, "theme"⟩ (Sample.accents (.text "blue"))
  refine ⟨_, hfilter, htarget, c', hc', (hall "accent" (.text "blue") rfl).mpr ?_⟩
  intro s hs e he hid hlater
  rcases List.mem_cons.mp hs with rfl | hs
  · cases hlater
  · obtain rfl := List.mem_singleton.mp hs
    rcases List.mem_cons.mp he with rfl | he
    · exact absurd hid (by decide)
    · obtain rfl := List.mem_singleton.mp he
      rfl

/-- The accent of the header is set, and that of the footer stays red. -/
theorem accent_of_footer_kept :
    lastNamed? [("accent", .text "blue")] "accent" = some (.text "blue") ∧
    ∃ f c', Manifest.filter Sample.brand = .ok f ∧
      f.run ⟨{}, .null, "theme"⟩ (Sample.accents (.text "red")) = .ok c' ∧
      Sample.accentDefaults c' = [some (.text "blue"), some (.text "red")] ∧
      Value.text "red" ≠ .text "blue" :=
  ⟨rfl, _, _, rfl, rfl, rfl, by simp⟩

end ThemeOptions
