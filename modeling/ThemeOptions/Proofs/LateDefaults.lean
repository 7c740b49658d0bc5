import ThemeOptions.Proofs.LateContributor

/-!
# Defaults beside a contributor that runs last

The defaults of a schema are looked up by option id, in the order of the section priorities, and the
registry keeps whole sections only.  So a contributor that runs last changes a default of an earlier
one if it brings an option of the same id further up, and takes that option over
(`Schema.takenOver`).

`Registry.Extends.entry?_schema` says that this is the only way: every option that is not taken over
is found as before, and `default_declarations_kept` draws the conclusion for the declarations.
-/

open scoped List

namespace ThemeOptions

/-- Whether a contributor takes an option over: it has a section with that option which comes before
every section of another contributor that has it. -/
def Schema.takenOver (s : Schema) (contributor option : String) : Bool :=
  s.sections.any fun a =>
    a.origin == some contributor && a.options.contains option &&
      s.sections.all fun b =>
        b.origin == some contributor || !b.options.contains option ||
          decide (a.priority < b.priority)

theorem Section.option?_isSome (s : Section) (id : String) :
    (s.option? id).isSome = s.options.contains id := by
  cases h : s.option? id with
  | none =>
    rw [Option.isSome_none, eq_comm, Keyed.contains_eq_false_iff]
    exact Keyed.find?_eq_none_iff.mp h
  | some e =>
    obtain ⟨hm, rfl⟩ := Keyed.find?_eq_some_iff.mp h
    rw [Option.isSome_some, eq_comm, Keyed.contains_iff]
    exact List.mem_map_of_mem hm

theorem Schema.takenOver_iff {s : Schema} {contributor option : String} :
    s.takenOver contributor option = true ↔
      ∃ a ∈ s.sections, a.origin = some contributor ∧ (a.option? option).isSome ∧
        ∀ b ∈ s.sections, b.origin ≠ some contributor → (b.option? option).isSome →
          a.priority < b.priority := by
  unfold takenOver
  simp only [List.any_eq_true, Bool.and_eq_true, List.all_eq_true, beq_iff_eq, Bool.or_eq_true,
    decide_eq_true_eq, Bool.not_eq_true', Section.option?_isSome]
  constructor
  · rintro ⟨a, ha, ⟨horigin, hoption⟩, hall⟩
    refine ⟨a, ha, horigin, hoption, fun b hb hne hopt => ?_⟩
    rcases hall b hb with (h | h) | h
    · exact absurd h hne
    · rw [hopt] at h
      exact absurd h (by simp)
    · exact h
  · rintro ⟨a, ha, horigin, hoption, hall⟩
    refine ⟨a, ha, ⟨horigin, hoption⟩, fun b hb => ?_⟩
    by_cases hne : b.origin = some contributor
    · exact Or.inl (Or.inl hne)
    · cases hopt : b.options.contains option with
      | false => exact Or.inl (Or.inr rfl)
      | true => exact Or.inr (hall b hb hne hopt)

/-- An option is taken over by the contributor of the first section that has it, if the sections are
in order and of equal ones those of the contributor come last. -/
theorem Schema.takenOver_iff_of_first {s : Schema} {id option : String} {l₁ l₂ : List Section}
    {a : Section} (hl : s.sections = l₁ ++ a :: l₂)
    (hsorted : s.sections.Pairwise fun a b => a.priority ≤ b.priority ∧
      (b.priority ≤ a.priority → a.origin = some id → b.origin = some id))
    (hl₁ : ∀ b ∈ l₁, b.option? option = none) (ha : (a.option? option).isSome) :
    s.takenOver id option = true ↔ a.origin = some id := by
  rw [hl, List.pairwise_append, List.pairwise_cons] at hsorted
  have ham : a ∈ s.sections := by rw [hl]; simp
  have hafter : ∀ b ∈ s.sections, (b.option? option).isSome → b = a ∨ b ∈ l₂ := by
    intro b hb hopt
    rw [hl] at hb
    rcases List.mem_append.mp hb with hb | hb
    · rw [hl₁ b hb] at hopt
      exact absurd hopt (by simp)
    · exact List.mem_cons.mp hb
  rw [takenOver_iff]
  constructor
  · rintro ⟨b, hb, hborigin, hbopt, hbefore⟩
    by_contra horigin
    have hlt := hbefore a ham horigin ha
    rcases hafter b hb hbopt with rfl | hb
    · exact horigin hborigin
    · exact Int32.not_le.mpr hlt (hsorted.2.1.1 b hb).1
  · intro horigin
    refine ⟨a, ham, horigin, ha, fun b hb hne hopt => ?_⟩
    rcases hafter b hb hopt with rfl | hb
    · exact absurd horigin hne
    · rw [← Int32.not_le]
      exact fun hle => hne ((hsorted.2.1.1 b hb).2 hle horigin)

theorem Schema.id_of_entry?_eq_some {s : Schema} {id : String} {e : Entry}
    (h : s.entry? id = some e) : e.id = id := by
  obtain ⟨x, hx, rfl⟩ := Option.map_eq_some_iff.mp h
  simpa using List.find?_some hx

namespace Registry.Extends

variable {r r' : Registry} {id : String}

/-- In the longer schema the sections are in order, and of equal ones those of the contributor
`id` come last. -/
theorem pairwise_schema (h : r'.Extends r id) :
    r'.schema.sections.Pairwise fun a b => a.priority ≤ b.priority ∧
      (b.priority ≤ a.priority → a.origin = some id → b.origin = some id) := by
  obtain ⟨new, hsections, hnew⟩ := h.sections
  have hregistered : r'.sections.toList.Pairwise fun a b =>
      a.origin = some id → b.origin = some id := by
    rw [hsections, List.pairwise_append]
    refine ⟨?_, ?_, fun a ha b hb _ => hnew b hb⟩
    · exact List.Pairwise.imp_of_mem (fun ha _ _ e => absurd e (h.old _ ha))
        (List.pairwise_of_forall fun _ _ => trivial)
    · exact List.Pairwise.imp_of_mem (fun _ hb _ _ => hnew _ hb)
        (List.pairwise_of_forall fun _ _ => trivial)
  have hsorted := StableSort.pairwise_mergeSort_of_pairwise
    (StableSort.byPriority_total Section.priority) (StableSort.byPriority_trans Section.priority)
    hregistered
  refine List.Pairwise.imp (fun {a b} hab => ?_) hsorted
  simpa [StableSort.byPriority] using hab

theorem entries_schema (h : r'.Extends r id) : r.schema.entries <+ r'.schema.entries := by
  refine Schema.entries_sublist ?_
  rw [← h.filter_schema]
  exact List.filter_sublist

/-- An option that the contributor takes over is found in a section of it, and any other option is
found where it was. -/
theorem entry?_schema (h : r'.Extends r id) {option : String}
    (hold : (r.schema.entry? option).isSome) :
    if r'.schema.takenOver id option then
      ∃ x ∈ r'.schema.entries, x.1.origin = some id ∧ r'.schema.entry? option = some x.2
    else r'.schema.entry? option = r.schema.entry? option := by
  simp only [Schema.entry?_eq_findSome?] at hold ⊢
  rw [← h.filter_schema] at hold ⊢
  have hsome : (r'.schema.sections.findSome? (·.option? option)).isSome := by
    obtain ⟨e, he⟩ := Option.isSome_iff_exists.mp hold
    obtain ⟨a, ha, hopt⟩ := List.exists_of_findSome?_eq_some he
    rw [List.findSome?_isSome_iff]
    exact ⟨a, (List.mem_filter.mp ha).1, by rw [hopt]; rfl⟩
  obtain ⟨e, he⟩ := Option.isSome_iff_exists.mp hsome
  -- `a` is the first section of the longer schema that has the option
  obtain ⟨l₁, a, l₂, hl, ha, hl₁⟩ := List.findSome?_eq_some_iff.mp he
  have htaken : r'.schema.takenOver id option = true ↔ a.origin = some id :=
    Schema.takenOver_iff_of_first hl h.pairwise_schema hl₁ (by rw [ha]; rfl)
  by_cases horigin : a.origin = some id
  · rw [if_pos (htaken.mpr horigin)]
    refine ⟨(a, e), Schema.mem_entries.mpr ⟨?_, (Keyed.find?_eq_some_iff.mp ha).1⟩, horigin, he⟩
    rw [hl]
    simp
  · have hnone : (l₁.filter fun s => s.origin != some id).findSome? (·.option? option) = none :=
      List.findSome?_eq_none_iff.mpr fun b hb => hl₁ b (List.mem_filter.mp hb).1
    rw [if_neg fun ht => horigin (htaken.mp ht), he, hl, List.filter_append,
      List.findSome?_append, hnone, Option.none_or, List.filter_cons,
      if_pos (by simpa using horigin), List.findSome?_cons, ha]

/-- The default of an option that is taken over is that of the contributor's own option, and any
other default is what it was. -/
theorem defaults_schema (h : r'.Extends r id) {x : Section × Entry} (hx : x ∈ r.schema.entries) :
    if r'.schema.takenOver id x.2.id then
      ∃ y ∈ r'.schema.entries, y.1.origin = some id ∧ y.2.id = x.2.id ∧
        r'.schema.defaults x.2.id = y.2.effectiveDefault
    else r'.schema.defaults x.2.id = r.schema.defaults x.2.id := by
  have hentry := h.entry?_schema (Schema.entry?_isSome_iff.mpr (List.mem_map_of_mem hx))
  unfold Schema.defaults
  by_cases htaken : r'.schema.takenOver id x.2.id = true
  · rw [if_pos htaken] at hentry ⊢
    obtain ⟨y, hy, horigin, he⟩ := hentry
    exact ⟨y, hy, horigin, Schema.id_of_entry?_eq_some he, by rw [he]⟩
  · rw [if_neg htaken] at hentry ⊢
    rw [hentry]

/-- The declarations of one option, unless it is taken over, are the same at both defaults. -/
theorem declarations_schema (h : r'.Extends r id) (ts : Transforms) {x : Section × Entry}
    (hx : x ∈ r.schema.entries) :
    ((x.2.declarations x.1.origin ts (r.schema.defaults x.2.id)).filter fun d =>
        !r'.schema.takenOver id d.optionId) <+
      x.2.declarations x.1.origin ts (r'.schema.defaults x.2.id) := by
  by_cases htaken : r'.schema.takenOver id x.2.id = true
  · have hnone : (x.2.declarations x.1.origin ts (r.schema.defaults x.2.id)).filter
        (fun d => !r'.schema.takenOver id d.optionId) = [] := by
      refine List.filter_eq_nil_iff.mpr fun d hd => ?_
      rw [Entry.optionId_of_mem_declarations hd, htaken]
      simp
    rw [hnone]
    exact List.nil_sublist _
  · have hdefault := h.defaults_schema hx
    rw [if_neg htaken] at hdefault
    rw [hdefault]
    exact List.filter_sublist

end Registry.Extends

/-- **Only an option that is taken over changes its default.**  For an option that a contributor
running last takes over, the default is that of its own option.  All other options keep theirs, and
their declarations stay in their order. -/
theorem default_declarations_kept {p p' : Pipeline} {c : Contributor} (h : p'.Extends p c)
    {out out' : BuildOutput} (hok : p.build.2 = .ok out) (hok' : p'.build.2 = .ok out') :
    (∀ x ∈ out.schema.entries,
      if out'.schema.takenOver c.id x.2.id then
        ∃ y ∈ out'.schema.entries, y.1.origin = some c.id ∧ y.2.id = x.2.id ∧
          out'.schema.defaults x.2.id = y.2.effectiveDefault
      else out'.schema.defaults x.2.id = out.schema.defaults x.2.id) ∧
    ∀ ts, ((out.schema.compile out.schema.defaults ts).declarations.filter fun d =>
        !out'.schema.takenOver c.id d.optionId) <+
      (out'.schema.compile out'.schema.defaults ts).declarations := by
  obtain ⟨r, r', hr, hs, hs'⟩ := h.schema hok hok'
  rw [hs, hs']
  refine ⟨fun x hx => hr.defaults_schema hx, fun ts => ?_⟩
  rw [Schema.declarations_compile, Schema.declarations_compile, List.filter_flatMap]
  have hold := List.Sublist.flatMap_right r.schema.entries fun x hx => hr.declarations_schema ts hx
  exact hold.trans (hr.entries_schema.flatMap _)

/-! ### The theme and its extension -/

namespace Sample

/-- What a pipeline gives if no contributor fails. -/
def output (p : Pipeline) : BuildOutput := p.finish (p.contributeAll p.start p.contributors).1

/-- The declarations of all options at their defaults. -/
def declarations (p : Pipeline) : List Declaration :=
  ((output p).schema.compile (output p).schema.defaults Transforms.builtins).declarations

theorem declarations_small : declarations small =
    [⟨"a", "color", "red", "accent", false⟩, ⟨"body", "background", "white", "paper", false⟩] := by
  decide +kernel

/-- The theme and its extension, with no filter. -/
def untuned : Pipeline := { contributors := [theme, extension], filters := [], options := ⟨true⟩ }

theorem untuned_extends : untuned.Extends small extension where
  contributors := rfl
  fresh d hd := by
    rw [List.mem_singleton.mp hd]
    decide
  filters _ _ := rfl
  house := rfl
  defaults := rfl
  options := rfl
  watched := rfl

/-- The section of the extension comes first. -/
theorem schema_untuned :
    (output untuned).schema.sections = (untuned.contributeAll untuned.start
      untuned.contributors).1.registry.sections.toList.reverse := by
  show [_, _].mergeSort _ = _
  rw [StableSort.mergeSort_pair]
  rfl

theorem declarations_untuned : declarations untuned =
    [⟨"a", "color", "green", "accent", false⟩,
      ⟨"body", "background", "white", "paper", false⟩] := by
  unfold declarations
  rw [show (output untuned).schema = ⟨(output untuned).schema.sections⟩ from rfl, schema_untuned]
  decide +kernel

/-- The extension takes the accent over, and the background is left. -/
theorem not_takenOver_untuned :
    ((declarations small).filter fun d =>
        !(output untuned).schema.takenOver "extension" d.optionId) =
      [⟨"body", "background", "white", "paper", false⟩] := by
  rw [declarations_small,
    show (output untuned).schema = ⟨(output untuned).schema.sections⟩ from rfl, schema_untuned]
  decide +kernel

end Sample

/-- Not every declaration stays: the accent of the extension is found before that of the theme, and
the theme's own rule is compiled with it. -/
theorem accent_taken_over :
    Sample.untuned.Extends Sample.small Sample.extension ∧
    ∃ out out', Sample.small.build.2 = .ok out ∧ Sample.untuned.build.2 = .ok out' ∧
      ¬(out.schema.compile out.schema.defaults Transforms.builtins).declarations <+
        (out'.schema.compile out'.schema.defaults Transforms.builtins).declarations := by
  refine ⟨Sample.untuned_extends, _, _, rfl, rfl, ?_⟩
  show ¬Sample.declarations Sample.small <+ Sample.declarations Sample.untuned
  rw [Sample.declarations_small, Sample.declarations_untuned]
  decide

/-- The background of the theme, which the extension does not have, stays. -/
theorem paper_kept :
    Sample.untuned.Extends Sample.small Sample.extension ∧
    ∃ out out', Sample.small.build.2 = .ok out ∧ Sample.untuned.build.2 = .ok out' ∧
      [⟨"body", "background", "white", "paper", false⟩] <+
        (out'.schema.compile out'.schema.defaults Transforms.builtins).declarations := by
  refine ⟨Sample.untuned_extends, _, _, rfl, rfl, ?_⟩
  have hkept := (default_declarations_kept Sample.untuned_extends rfl rfl).2 Transforms.builtins
  exact Sample.not_takenOver_untuned ▸ hkept

end ThemeOptions
