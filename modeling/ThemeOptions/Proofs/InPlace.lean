import ThemeOptions.Proofs.Build
import ThemeOptions.Slotted.Pipeline

/-!
# Pipelines in which nothing is out of place

A section becomes one with slots by leaving every option under its own id, and so do contributions,
registries and schemas.  A pipeline whose contributors and filters return such contributions, and
register nowhere but in the build, is a special case of the general one
(`Pipeline.build_slotted`): every operation on the sections, every check and every step of the build
does the same on both sides.

The theorems about general pipelines therefore hold of those that run.
-/

namespace ThemeOptions

/-! ### Both forms -/

/-- Items of another kind under the same keys. -/
def Keyed.convert {α β : Type} {key : α → String} {key' : β → String} (c : Keyed α key) (f : α → β)
    (h : ∀ a, key' (f a) = key a) : Keyed β key' where
  toList := c.toList.map f
  nodup_keys := by
    rw [List.map_map, show key' ∘ f = key from funext h]
    exact c.nodup_keys

/-- The section with every option under its own id. -/
def Section.slotted (s : Section) : Slotted.Section where
  id := s.id
  title := s.title
  description := s.description
  priority := s.priority
  panel := s.panel
  options := s.options.slots
  origin := s.origin

/-- The contribution with every section and every option under its own id. -/
def Contribution.slotted (c : Contribution) : Slotted.Contribution :=
  ⟨(c.sections.convert Section.slotted fun _ => rfl : Keyed _ Slotted.Section.id).slots⟩

def Registry.slotted (r : Registry) : Slotted.Registry where
  sections := r.sections.convert Section.slotted fun _ => rfl
  observed := r.observed

def Schema.slotted (s : Schema) : Slotted.Schema := ⟨s.sections.map Section.slotted⟩

/-- The section with every option under its own id, of those with one id the first. -/
def Slotted.Section.plain (s : Slotted.Section) : ThemeOptions.Section :=
  { s.head with options := Keyed.ofList s.entries }

def Slotted.Contribution.plain (c : Slotted.Contribution) : ThemeOptions.Contribution :=
  ⟨Keyed.ofList (c.items.map Slotted.Section.plain)⟩

def Slotted.Registry.plain (r : Slotted.Registry) : ThemeOptions.Registry where
  sections := r.sections.convert Slotted.Section.plain fun _ => rfl
  observed := r.observed

def Slotted.Context.plain (context : Slotted.Context) : ThemeOptions.Context :=
  ⟨context.registry.plain, context.house, context.contributor⟩

/-- The contributor as one that can do anything. -/
def Contributor.slotted (c : Contributor) : Slotted.Contributor where
  id := c.id
  priority := c.priority
  provenance := c.provenance
  run context := ([], (c.run context.plain).map Contribution.slotted)

def Filter.slotted (f : Filter) : Slotted.Filter where
  id := f.id
  target := f.target
  priority := f.priority
  run context c := ([], (f.run context.plain c.plain).map Contribution.slotted)

def Pipeline.slotted (p : Pipeline) : Slotted.Pipeline where
  contributors := p.contributors.map Contributor.slotted
  filters := p.filters.map Filter.slotted
  house := p.house
  defaults := p.defaults
  options := p.options
  watched := p.watched

def BuildOutput.slotted (o : BuildOutput) : Slotted.BuildOutput := ⟨o.schema.slotted, o.findings⟩

/-! ### There and back -/

@[simp] theorem Section.entries_slotted (s : Section) : s.slotted.entries = s.options.toList :=
  s.options.items_slots

@[simp] theorem Contribution.items_slotted (c : Contribution) :
    c.slotted.items = c.sections.toList.map Section.slotted :=
  Keyed.items_slots _

theorem Contribution.inPlace_slotted (c : Contribution) : c.slotted.InPlace where
  sections := Keyed.inPlace_slots _
  options s hs := by
    rw [items_slotted] at hs
    obtain ⟨t, -, rfl⟩ := List.mem_map.mp hs
    exact t.options.inPlace_slots

@[simp] theorem Section.plain_slotted (s : Section) : s.slotted.plain = s := by
  unfold Slotted.Section.plain
  rw [entries_slotted, Keyed.ofList_toList]
  rfl

@[simp] theorem Contribution.plain_slotted (c : Contribution) : c.slotted.plain = c := by
  have hplain : (Slotted.Section.plain ∘ Section.slotted) = id :=
    funext Section.plain_slotted
  unfold Slotted.Contribution.plain
  rw [items_slotted, List.map_map, hplain, List.map_id, Keyed.ofList_toList]

@[simp] theorem Registry.plain_slotted (r : Registry) : r.slotted.plain = r := by
  have hplain : (Slotted.Section.plain ∘ Section.slotted) = id :=
    funext Section.plain_slotted
  have hsections : r.slotted.plain.sections = r.sections := by
    refine Keyed.ext ?_
    show (r.sections.toList.map Section.slotted).map Slotted.Section.plain = _
    rw [List.map_map, hplain, List.map_id]
  show { sections := r.slotted.plain.sections, observed := r.observed } = r
  rw [hsections]

/-! ### Sections and options -/

namespace Section

@[simp] theorem option?_slotted (s : Section) (id : String) :
    s.slotted.option? id = s.option? id :=
  s.options.item?_slots id

theorem sameContent_slotted (s t : Section) :
    s.slotted.sameContent t.slotted = s.sameContent t := by
  have hoptions : s.slotted.options.agrees Entry.same t.slotted.options =
      s.options.agrees Entry.same t.options :=
    s.options.agrees_slots Entry.same t.options
  have hnone : (Keyed.empty : Keyed Entry Entry.id).agrees Entry.same Keyed.empty = true := rfl
  unfold Slotted.Section.sameContent
  rw [hoptions]
  unfold sameContent
  simp only [Slotted.Section.head, slotted, hnone, Bool.and_true]

theorem slotted_add (s : Section) (e : Entry) : (s.add e).slotted = s.slotted.add e :=
  congrArg (fun o => { s.slotted with options := o }) (s.options.slots_insert e)

theorem slotted_remove (s : Section) (id : String) :
    (s.remove id).2.slotted = s.slotted.remove id :=
  congrArg (fun o => { s.slotted with options := o }) (s.options.slots_erase id)

theorem slotted_setDefault (s : Section) (id : String) (v : Option Value) :
    (s.setDefault id v).slotted = s.slotted.revise id (·.withDefault v) :=
  congrArg (fun o => { s.slotted with options := o })
    (s.options.slots_modify id (·.withDefault v) fun _ => rfl)

end Section

/-! ### Registering and supplying -/

namespace Registry

variable (r : Registry) (origin : Option String)

@[simp] theorem section?_slotted (id : String) :
    r.slotted.section? id = (r.section? id).map Section.slotted := by
  unfold Slotted.Registry.section? Keyed.find?
  rw [show r.slotted.sections.toList = r.sections.toList.map Section.slotted from rfl,
    List.find?_map]
  rfl

@[simp] theorem contains_slotted (id : String) :
    r.slotted.sections.contains id = r.sections.contains id := by
  unfold Keyed.contains
  rw [show r.slotted.sections.toList = r.sections.toList.map Section.slotted from rfl,
    List.any_map]
  rfl

@[simp] theorem entry?_slotted (id : String) : r.slotted.entry? id = r.entry? id := by
  unfold Slotted.Registry.entry? entry?
  rw [show r.slotted.sections.toList = r.sections.toList.map Section.slotted from rfl,
    List.findSome?_map]
  exact congrArg (List.findSome? · _) (funext fun s => s.option?_slotted id)

theorem admission_slotted (s : Section) :
    r.slotted.admission origin s.slotted = r.admission origin s := by
  unfold Slotted.Registry.admission admission
  rw [show s.slotted.id = s.id from rfl, section?_slotted]
  cases r.section? s.id with
  | none => rfl
  | some old =>
    simp only [Option.map_some, Section.sameContent_slotted]
    rfl

theorem enroll_slotted (s : Section) :
    r.slotted.enroll origin s.slotted = (r.enroll origin s).slotted := by
  unfold Slotted.Registry.enroll enroll
  rw [admission_slotted]
  cases r.admission origin s with
  | alike => rfl
  | rejected c => rfl
  | added =>
    -- the section comes to the end on both sides, or its id is taken on both
    refine congrArg (Slotted.Registry.mk · r.observed) (Keyed.ext ?_)
    show (r.slotted.sections.insert ({ s with origin } : Section).slotted).toList =
      (r.sections.insert { s with origin }).toList.map Section.slotted
    rw [Keyed.toList_insert, Keyed.toList_insert]
    have hkeys : r.slotted.sections.keys = r.sections.keys := by
      unfold Keyed.keys
      rw [show r.slotted.sections.toList = r.sections.toList.map Section.slotted from rfl,
        List.map_map]
      rfl
    rw [hkeys, show ({ s with origin } : Section).slotted.id = s.id from rfl]
    split
    · rfl
    · rw [List.map_append]
      rfl

theorem register_slotted (c : Contribution) :
    r.slotted.register origin c.slotted =
      ((r.register origin c).1, (r.register origin c).2.slotted) := by
  unfold Slotted.Registry.register register
  rw [Contribution.items_slotted, List.foldl_map]
  generalize ({} : Report) = report
  induction c.sections.toList generalizing report r with
  | nil => rfl
  | cons s l ih =>
    rw [List.foldl_cons, List.foldl_cons]
    simp only [admission_slotted, enroll_slotted]
    exact ih (r.enroll origin s) _

theorem supplyDefault_slotted (id : String) (v : Value) :
    r.slotted.supplyDefault id v =
      ((r.supplyDefault id v).1, (r.supplyDefault id v).2.slotted) := by
  have hid (e : Entry) : (Slotted.Registry.fillEntry v e).id = e.id := by
    unfold Slotted.Registry.fillEntry
    split <;> rfl
  have hfill (s : Section) : Slotted.Registry.fill id v s.slotted = (fill id v s).slotted :=
    congrArg (fun o => { s.slotted with options := o }) (s.options.slots_modify id _ hid).symm
  unfold Slotted.Registry.supplyDefault supplyDefault
  refine Prod.ext ?_ (congrArg (Slotted.Registry.mk · r.observed) (Keyed.ext ?_))
  · show (r.sections.toList.map Section.slotted).any _ = _
    rw [List.any_map]
    refine congrArg (List.any _) (funext fun s => ?_)
    show (s.slotted.option? id).any _ = _
    rw [Section.option?_slotted]
    rfl
  · show (r.sections.toList.map Section.slotted).map _ = (r.sections.toList.map _).map _
    rw [List.map_map, List.map_map]
    exact List.map_congr_left fun s _ => hfill s

theorem schema_slotted : r.slotted.schema = r.schema.slotted := by
  have hsorted : r.schema.sections.map Section.slotted =
      (r.sections.toList.map Section.slotted).mergeSort fun a b => a.priority ≤ b.priority :=
    List.map_mergeSort fun _ _ _ _ => rfl
  exact congrArg Slotted.Schema.mk hsorted.symm

/-! ### The checks -/

theorem freeSections_slotted (c : Contribution) :
    r.slotted.freeSections c.slotted = (r.freeSections c).map Section.slotted := by
  unfold Slotted.Registry.freeSections freeSections
  rw [Contribution.items_slotted, List.filter_map]
  refine congrArg _ (List.filter_congr fun s _ => ?_)
  rw [Function.comp_apply, contains_slotted]
  rfl

end Registry

/-- The check for duplicates looks at the options only. -/
theorem taken_map {σ τ : Type} (f : σ → τ) (registered : String → Bool) (seen : List String)
    (l : List (σ × Entry)) :
    taken registered seen (l.map fun x => (f x.1, x.2)) =
      (taken registered seen l).map fun x => (f x.1, x.2) := by
  induction l generalizing seen with
  | nil => rfl
  | cons x l ih =>
    rw [List.map_cons, taken, taken]
    split
    · rw [ih, List.map_cons]
    · rw [ih]

namespace Registry

variable (r : Registry) (origin : Option String) (c : Contribution)

theorem duplicateFindings_slotted :
    r.slotted.duplicateFindings origin c.slotted = r.duplicateFindings origin c := by
  have hentries : Slotted.Schema.entries ⟨r.slotted.freeSections c.slotted⟩ =
      ((r.freeSections c).flatMap fun s => s.options.toList.map fun e => (s, e)).map fun x =>
        (x.1.slotted, x.2) := by
    unfold Slotted.Schema.entries
    rw [freeSections_slotted, List.flatMap_map, List.map_flatMap]
    refine List.flatMap_congr fun s _ => ?_
    rw [Section.entries_slotted, List.map_map]
    rfl
  unfold Slotted.Registry.duplicateFindings duplicateFindings
  simp only [entry?_slotted, hentries, taken_map, List.map_map]
  rfl

theorem structureFindings_slotted :
    c.slotted.structureFindings origin = c.structureFindings origin := by
  unfold Slotted.Contribution.structureFindings Contribution.structureFindings
  rw [Contribution.items_slotted, List.flatMap_map]
  refine List.flatMap_congr fun s _ => ?_
  unfold Slotted.Section.structureFindings
  rw [Section.entries_slotted]
  unfold Section.structureFindings
  rw [show s.slotted.head.options.toList = [] from rfl, List.flatMap_nil, List.append_nil]
  rfl

theorem openDefaultFindings_slotted :
    r.slotted.openDefaultFindings origin c.slotted = r.openDefaultFindings origin c := by
  unfold Slotted.Registry.openDefaultFindings openDefaultFindings
  rw [Contribution.items_slotted, List.flatMap_map]
  refine List.flatMap_congr fun s _ => ?_
  rw [show s.slotted.id = s.id from rfl, section?_slotted]
  cases r.section? s.id with
  | none => rfl
  | some registered =>
    simp only [Option.map_some, Slotted.Section.openIn, Section.entries_slotted,
      Section.option?_slotted]
    rfl

end Registry

/-! ### A build -/

namespace Pipeline

theorem applyFilters_slotted {context : Slotted.Context} (fs : List Filter) (c : Contribution) :
    Slotted.Pipeline.applyFilters context (fs.map Filter.slotted) c.slotted =
      ([], (applyFilters context.plain fs c).map Contribution.slotted) := by
  induction fs generalizing c with
  | nil => rfl
  | cons f rest ih =>
    rw [List.map_cons, Slotted.Pipeline.applyFilters, applyFilters]
    simp only [Filter.slotted, Contribution.plain_slotted,
      show context.plain.contributor = context.contributor from rfl]
    by_cases htarget : (f.target == context.contributor) = true
    · rw [if_pos htarget, if_pos htarget]
      cases f.run context.plain c with
      | error failure => rfl
      | ok c' =>
        simp only [Except.map, ih c', List.nil_append]
    · rw [if_neg htarget, if_neg htarget]
      exact ih c

/-- What a contributor brings is the same on both sides, and it causes no conflicts on the way. -/
theorem bring_slotted (p : Pipeline) (st : BuildState) (c : Contributor) :
    p.slotted.bring ⟨st.registry.slotted, p.house, c.id⟩ c.slotted =
      ([], match c.run (p.context st c.id) with
        | .error failure => .error ⟨c.id, failure⟩
        | .ok returned =>
          (applyFilters (p.context st c.id) p.filters returned).map fun filtered =>
            (returned.slotted, filtered.slotted)) := by
  have hplain : Slotted.Context.plain ⟨st.registry.slotted, p.house, c.id⟩ = p.context st c.id := by
    rw [Slotted.Context.plain, Registry.plain_slotted]
    rfl
  unfold Slotted.Pipeline.bring
  simp only [Contributor.slotted, hplain]
  cases c.run (p.context st c.id) with
  | error failure => rfl
  | ok returned =>
    simp only [Except.map, slotted, applyFilters_slotted, hplain, List.nil_append]
    cases applyFilters (p.context st c.id) p.filters returned <;> rfl

/-- Both builds have got equally far. -/
structure InStep (p : Pipeline) (st : BuildState) (st' : Slotted.BuildState) : Prop where
  registry : st'.registry = st.registry.slotted
  findings : st.findings =
    if p.options.diagnostics then st'.turns.flatMap Slotted.Turn.findings else []
  returned : st'.turns.map (fun t => (t.contributor, t.returned)) =
    st.returned.map fun x => (x.1, x.2.slotted)
  filtered : ∀ t ∈ st'.turns, t.filtered.InPlace

namespace InStep

variable {p : Pipeline} {st : BuildState} {st' : Slotted.BuildState}

theorem contribute_eq (h : p.InStep st st') (c : Contributor) :
    p.slotted.contribute st' c.slotted =
      match c.run (p.context st c.id) with
      | .error failure => (st', some ⟨c.id, failure⟩)
      | .ok returned =>
        match applyFilters (p.context st c.id) p.filters returned with
        | .error e => (st', some e)
        | .ok filtered =>
          (st'.next ⟨c.id, st'.registry, [], returned.slotted, filtered.slotted⟩, none) := by
  have hbring := p.bring_slotted st c
  rw [← h.registry] at hbring
  unfold Slotted.Pipeline.contribute
  rw [show p.slotted.house = p.house from rfl, show c.slotted.id = c.id from rfl, hbring]
  cases c.run (p.context st c.id) with
  | error failure => simp only [Slotted.Registry.tell_nil]
  | ok returned =>
    simp only
    cases applyFilters (p.context st c.id) p.filters returned with
    | error e => simp only [Except.map, Slotted.Registry.tell_nil]
    | ok filtered => rfl

/-- After a turn both builds are in step again. -/
theorem accept (h : p.InStep st st') (id : String) (returned filtered : Contribution) :
    p.InStep (p.accept st id returned filtered)
      (st'.next ⟨id, st'.registry, [], returned.slotted, filtered.slotted⟩) := by
  have hregister := st.registry.register_slotted (some id) filtered
  rw [← h.registry] at hregister
  constructor
  · show (Slotted.Registry.register (st'.registry.tell []) (some id) filtered.slotted).2 = _
    rw [Slotted.Registry.tell_nil, hregister]
    rfl
  · show st.findings ++ _ = if p.options.diagnostics then (st'.turns ++ [_]).flatMap _ else []
    rw [h.findings]
    split
    · rw [List.flatMap_append, List.flatMap_singleton, Slotted.Turn.findings, Slotted.Turn.report,
        hregister, Registry.structureFindings_slotted, h.registry,
        Registry.duplicateFindings_slotted]
      rfl
    · rfl
  · show (st'.turns ++ [_]).map _ = (st.returned ++ [_]).map _
    rw [List.map_append, List.map_append, h.returned]
    rfl
  · intro t ht
    rcases List.mem_append.mp ht with ht | ht
    · exact h.filtered t ht
    · rw [List.mem_singleton.mp ht]
      exact filtered.inPlace_slotted

theorem contributeAll (h : p.InStep st st') (l : List Contributor) :
    p.InStep (p.contributeAll st l).1 (p.slotted.contributeAll st' (l.map Contributor.slotted)).1 ∧
      (p.slotted.contributeAll st' (l.map Contributor.slotted)).2 = (p.contributeAll st l).2 := by
  induction l generalizing st st' with
  | nil => exact ⟨h, rfl⟩
  | cons c rest ih =>
    rw [List.map_cons, ThemeOptions.Pipeline.contributeAll, Slotted.Pipeline.contributeAll,
      h.contribute_eq, ThemeOptions.Pipeline.contribute_eq]
    cases c.run (p.context st c.id) with
    | error failure => exact ⟨h, rfl⟩
    | ok returned =>
      simp only
      cases applyFilters (p.context st c.id) p.filters returned with
      | error e => exact ⟨h, rfl⟩
      | ok filtered => exact ih (h.accept c.id returned filtered)

end InStep

theorem supplyDefaults_slotted (p : Pipeline) (r : Registry) :
    p.slotted.supplyDefaults r.slotted = (p.supplyDefaults r).slotted := by
  unfold Slotted.Pipeline.supplyDefaults supplyDefaults
  rw [show p.slotted.defaults = p.defaults from rfl]
  induction p.defaults generalizing r with
  | nil => rfl
  | cons d ds ih =>
    rw [List.foldl_cons, List.foldl_cons]
    simp only [Registry.supplyDefault_slotted]
    exact ih _

theorem InStep.finish {p : Pipeline} {st : BuildState} {st' : Slotted.BuildState}
    (h : p.InStep st st') : p.slotted.finish st' = (p.finish st).slotted := by
  have hopen (r : Registry) : (st'.turns.flatMap fun t =>
      r.slotted.openDefaultFindings (some t.contributor) t.returned) =
        openDefaultFindings r st.returned := by
    have hturns := List.flatMap_map (l := st'.turns) (f := fun t => (t.contributor, t.returned))
      fun x => r.slotted.openDefaultFindings (some x.1) x.2
    rw [openDefaultFindings, ← hturns, h.returned, List.flatMap_map]
    exact List.flatMap_congr fun x _ => r.openDefaultFindings_slotted (some x.1) x.2
  unfold Slotted.Pipeline.finish ThemeOptions.Pipeline.finish
  rw [h.registry, h.findings]
  simp only [supplyDefaults_slotted, Registry.schema_slotted, hopen]
  show Slotted.BuildOutput.mk _ (if p.options.diagnostics then _ else _) = _
  split <;> rfl

/-- Both builds begin in step. -/
theorem inStep_start (p : Pipeline) : p.InStep p.start p.slotted.start := by
  constructor
  · unfold ThemeOptions.Pipeline.start Slotted.Pipeline.start
    show (if p.watched then _ else _) = _
    split <;> rfl
  · show [] = if p.options.diagnostics then [] else []
    split <;> rfl
  · rfl
  · exact fun t ht => absurd ht List.not_mem_nil

/-- **The pipeline that runs is a case of the general one.**  If contributors and filters are such
that everything stands in its place and nothing is registered on the side, then both builds tell the
observer of the same conflicts, fail in the same way, and give the same sections and findings. -/
theorem build_slotted (p : Pipeline) :
    p.slotted.build = (p.build.1, p.build.2.map BuildOutput.slotted) := by
  obtain ⟨hstep, hfailed⟩ := p.inStep_start.contributeAll p.contributors
  have hobserved := congrArg Slotted.Registry.observed hstep.registry
  rw [show p.contributors.map Contributor.slotted = p.slotted.contributors from rfl] at *
  refine Prod.ext (congrArg (Option.getD · []) hobserved) ?_
  rw [build_snd]
  unfold Slotted.Pipeline.build
  rcases hrun : p.slotted.contributeAll p.slotted.start p.slotted.contributors with ⟨st', failed⟩
  rw [hrun] at hstep hfailed
  obtain rfl : failed = (p.contributeAll p.start p.contributors).2 := hfailed
  cases (p.contributeAll p.start p.contributors).2 with
  | some e => rfl
  | none => exact congrArg Except.ok hstep.finish

theorem inPlace_slotted (p : Pipeline) : p.slotted.InPlace :=
  (p.inStep_start.contributeAll p.contributors).1.filtered

theorem inPlace_returned_slotted (p : Pipeline) : ∀ t ∈ p.slotted.turns, t.returned.InPlace := by
  intro t ht
  have hreturned := (p.inStep_start.contributeAll p.contributors).1.returned
  have hmem : (t.contributor, t.returned) ∈
      (p.contributeAll p.start p.contributors).1.returned.map fun x => (x.1, x.2.slotted) := by
    rw [← hreturned]
    exact List.mem_map_of_mem ht
  obtain ⟨x, -, hx⟩ := List.mem_map.mp hmem
  have hsame : x.2.slotted = t.returned := congrArg Prod.snd hx
  exact hsame ▸ x.2.inPlace_slotted

end Pipeline

end ThemeOptions
