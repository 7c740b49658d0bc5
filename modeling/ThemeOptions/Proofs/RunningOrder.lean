import Mathlib.Data.List.Nodup
import ThemeOptions.Proofs.RegistrationOrder

/-!
# The order in which contributors run

Contributors that look at nothing and do not get in each other's way may run in any order.  Each of
them appends its own sections (`Pipeline.contributeAll_blind`), and the application's defaults go to
one section after the other, so the schema is put together from what the contributors bring one by
one (`Pipeline.build_schema_eq_together`); options may have the same ids throughout.  Sorting by
priority undoes whatever order they ran in, since no two of them bring sections of one priority
(`Pipeline.together_eq_of_perm`).
-/

open scoped List

namespace ThemeOptions

/-- It brings the same whatever it sees, and never fails. -/
def Contributor.Blind (c : Contributor) : Prop :=
  ∃ returned, ∀ context, c.run context = .ok returned

/-- What it makes of a contribution hangs on the contribution alone, and it never fails. -/
def Filter.Blind (f : Filter) : Prop :=
  ∃ change : Contribution → Contribution, ∀ context c, f.run context c = .ok (change c)

theorem Contributor.always_blind (id : String) (priority : Int32) (provenance : Provenance)
    (c : Contribution) : (always id priority provenance c).Blind :=
  ⟨c, fun _ => rfl⟩

namespace Pipeline

variable {p : Pipeline}

/-! ### What contributors bring -/

/-- What a contributor brings through its filters when nothing is registered; nothing if it
fails. -/
def brought (p : Pipeline) (c : Contributor) : Contribution :=
  let context : Context := ⟨{}, p.house, c.id⟩
  match c.run context with
  | .error _ => {}
  | .ok returned =>
    match applyFilters context p.filters returned with
    | .error _ => {}
    | .ok filtered => filtered

/-- The sections that a contributor brings, in its name. -/
def sectionsFrom (p : Pipeline) (c : Contributor) : List Section :=
  (p.brought c).sections.toList.map (Section.withOrigin (some c.id))

/-- Contributors and filters look at nothing and never fail, and no two contributors bring sections
with the same id or with the same priority. -/
structure Apart (p : Pipeline) : Prop where
  contributors : ∀ c ∈ p.contributors, c.Blind
  filters : ∀ f ∈ p.filters, f.Blind
  sections : ∀ c ∈ p.contributors, ∀ d ∈ p.contributors, c.id ≠ d.id →
    ∀ s ∈ (p.brought c).sections.toList, ∀ t ∈ (p.brought d).sections.toList,
      s.id ≠ t.id ∧ s.priority ≠ t.priority

theorem Apart.ne_of_mem (h : p.Apart) {c d : Contributor} (hc : c ∈ p.contributors)
    (hd : d ∈ p.contributors) (hne : c.id ≠ d.id) {s t : Section} (hs : s ∈ p.sectionsFrom c)
    (ht : t ∈ p.sectionsFrom d) : s.id ≠ t.id ∧ s.priority ≠ t.priority := by
  obtain ⟨s', hs', rfl⟩ := List.mem_map.mp hs
  obtain ⟨t', ht', rfl⟩ := List.mem_map.mp ht
  exact h.sections c hc d hd hne s' hs' t' ht'

theorem applyFilters_blind {fs : List Filter} (h : ∀ f ∈ fs, f.Blind) (id : String) :
    ∃ change : Contribution → Contribution, ∀ context : Context, context.contributor = id →
      ∀ c, applyFilters context fs c = .ok (change c) := by
  induction fs with
  | nil => exact ⟨fun c => c, fun _ _ _ => rfl⟩
  | cons f rest ih =>
    obtain ⟨change, hchange⟩ := h f List.mem_cons_self
    obtain ⟨others, hothers⟩ := ih fun g hg => h g (List.mem_cons_of_mem _ hg)
    by_cases htarget : (f.target == id) = true
    · refine ⟨fun c => others (change c), fun context hid c => ?_⟩
      subst hid
      simp only [applyFilters, if_pos htarget, hchange, hothers context rfl]
    · refine ⟨others, fun context hid c => ?_⟩
      subst hid
      rw [applyFilters, if_neg htarget, hothers context rfl]

/-- Whatever is registered, a contributor brings what it brings to an empty registry. -/
theorem Apart.contribute (h : p.Apart) {c : Contributor} (hc : c ∈ p.contributors) :
    ∃ returned, ∀ st, p.contribute st c = .ok (p.accept st c.id returned (p.brought c)) := by
  obtain ⟨returned, hrun⟩ := h.contributors c hc
  obtain ⟨change, hfilters⟩ := applyFilters_blind h.filters c.id
  have hbrought : p.brought c = change returned := by
    simp only [brought, hrun, hfilters ⟨{}, p.house, c.id⟩ rfl]
  refine ⟨returned, fun st => contribute_eq_ok_iff.mpr ⟨returned, p.brought c, hrun _, ?_, rfl⟩⟩
  rw [hbrought]
  exact hfilters _ rfl returned

/-! ### Runs -/

/-- Sections whose ids are free are registered as they are. -/
theorem toList_accept {st : BuildState} {c : Contributor} (returned : Contribution)
    (hids : ((st.registry.sections.toList ++ p.sectionsFrom c).map Section.id).Nodup) :
    (p.accept st c.id returned (p.brought c)).registry.sections.toList =
      st.registry.sections.toList ++ p.sectionsFrom c := by
  have hfree : st.registry.freeSections (p.brought c) = (p.brought c).sections.toList := by
    refine List.filter_eq_self.mpr fun s hs => ?_
    rw [List.map_append, List.nodup_append] at hids
    have hnew : s.id ∈ (p.sectionsFrom c).map Section.id :=
      List.mem_map.mpr ⟨_, List.mem_map_of_mem hs, rfl⟩
    have hfresh : st.registry.sections.contains s.id = false :=
      Keyed.contains_eq_false_iff.mpr fun hold => hids.2.2 _ hold _ hnew rfl
    rw [hfresh]
    rfl
  rw [accept, Registry.toList_register, hfree, sectionsFrom]

/-- Contributors whose sections all have ids of their own append them one after the other. -/
theorem contributeAll_blind (h : p.Apart) {l : List Contributor} (hl : l ⊆ p.contributors)
    {st : BuildState}
    (hids : ((st.registry.sections.toList ++ l.flatMap p.sectionsFrom).map Section.id).Nodup) :
    ∃ st', p.contributeAll st l = (st', none) ∧
      st'.registry.sections.toList = st.registry.sections.toList ++ l.flatMap p.sectionsFrom := by
  induction l generalizing st with
  | nil => exact ⟨st, rfl, (List.append_nil _).symm⟩
  | cons c rest ih =>
    obtain ⟨returned, hstep⟩ := h.contribute (hl List.mem_cons_self)
    -- what is registered and what is to come make the same list before and after the step
    rw [List.flatMap_cons, ← List.append_assoc] at hids ⊢
    have hfirst : ((st.registry.sections.toList ++ p.sectionsFrom c).map Section.id).Nodup := by
      rw [List.map_append] at hids
      exact (List.nodup_append.mp hids).1
    rw [← toList_accept returned hfirst] at hids ⊢
    rw [contributeAll, hstep]
    exact ih (fun d hd => hl (List.mem_cons_of_mem _ hd)) hids

/-- The sections of all contributors together have distinct ids. -/
theorem Apart.nodup_ids (h : p.Apart) (hids : (p.contributors.map Contributor.id).Nodup) :
    ((p.contributors.flatMap p.sectionsFrom).map Section.id).Nodup := by
  rw [List.map_flatMap, List.nodup_flatMap]
  constructor
  · intro c _
    rw [sectionsFrom, List.map_map]
    exact (p.brought c).sections.nodup_keys
  · refine (List.pairwise_map.mp hids).imp_of_mem fun {c d} hc hd hne id hidc hidd => ?_
    obtain ⟨s, hs, rfl⟩ := List.mem_map.mp hidc
    obtain ⟨t, ht, heq⟩ := List.mem_map.mp hidd
    exact (h.ne_of_mem hc hd hne hs ht).1 heq.symm

/-! ### The schema -/

/-- The schema of what contributors bring, each of them with the application's defaults. -/
def together (p : Pipeline) (l : List Contributor) : Schema where
  sections := (l.flatMap fun c => (p.sectionsFrom c).map p.fillDefaults).mergeSort
    (StableSort.byPriority Section.priority)

theorem build_schema_eq_together (h : p.Apart) (hids : (p.contributors.map Contributor.id).Nodup) :
    p.build.2.map BuildOutput.schema = .ok (p.together p.contributors) := by
  have hnodup : ((p.start.registry.sections.toList ++
      p.contributors.flatMap p.sectionsFrom).map Section.id).Nodup := by
    rw [toList_start, List.nil_append]
    exact h.nodup_ids hids
  obtain ⟨st, hrun, hsections⟩ := contributeAll_blind h (fun _ hc => hc) hnodup
  rw [toList_start, List.nil_append] at hsections
  rw [build_snd, hrun]
  refine congrArg (fun l => Except.ok (Schema.mk l)) ?_
  show (p.supplyDefaults st.registry).sections.toList.mergeSort
    (StableSort.byPriority Section.priority) = _
  rw [toList_supplyDefaults, hsections, List.map_flatMap]

/-- Of two contributors with different ids at most one has sections of a given priority. -/
theorem Apart.filter_priority (h : p.Apart) {c d : Contributor} (hc : c ∈ p.contributors)
    (hd : d ∈ p.contributors) (hne : c.id ≠ d.id) (n : Int32) :
    ((p.sectionsFrom c).map p.fillDefaults).filter (·.priority == n) = [] ∨
      ((p.sectionsFrom d).map p.fillDefaults).filter (·.priority == n) = [] := by
  rw [or_iff_not_imp_left, List.filter_eq_nil_iff, List.filter_eq_nil_iff]
  intro hsome t ht htn
  refine hsome fun s hs hsn => ?_
  obtain ⟨s', hs', rfl⟩ := List.mem_map.mp hs
  obtain ⟨t', ht', rfl⟩ := List.mem_map.mp ht
  rw [priority_fillDefaults, beq_iff_eq] at hsn htn
  exact (h.ne_of_mem hc hd hne hs' ht').2 (hsn.trans htn.symm)

theorem together_eq_of_perm (h : p.Apart) (hids : (p.contributors.map Contributor.id).Nodup)
    {order : List Contributor} (horder : order ~ p.contributors) :
    p.together order = p.together p.contributors := by
  refine congrArg Schema.mk (StableSort.mergeSort_byPriority_congr Section.priority fun n => ?_)
  -- the sections of one priority, which all come from one contributor
  rw [List.filter_flatMap, List.filter_flatMap]
  refine (flatMap_congr_of_perm horder.symm ?_).symm
  exact (List.pairwise_map.mp hids).imp_of_mem fun {c d} hc hd hne => h.filter_priority hc hd hne n

/-! ### Orders and priorities -/

theorem Apart.reordered (h : p.Apart) {order : List Contributor} (horder : order ~ p.contributors) :
    { p with contributors := order : Pipeline }.Apart where
  contributors c hc := h.contributors c (horder.mem_iff.mp hc)
  filters := h.filters
  sections c hc d hd := h.sections c (horder.mem_iff.mp hc) d (horder.mem_iff.mp hd)

end Pipeline

/-- A contributor with its priority left out. -/
def Contributor.unranked (c : Contributor) : Contributor := { c with priority := 0 }

/-- Contributors with other priorities, which are told by their places in the list. -/
def assign (π : Nat → Int32) (cs : List Contributor) : List Contributor :=
  cs.mapIdx fun i c => { c with priority := π i }

theorem map_unranked_assign (π : Nat → Int32) (cs : List Contributor) :
    (assign π cs).map Contributor.unranked = cs.map Contributor.unranked := by
  refine List.ext_getElem? fun i => ?_
  rw [assign, List.getElem?_map, List.getElem?_map, List.getElem?_mapIdx, Option.map_map]
  rfl

namespace Pipeline

variable {p : Pipeline}

/-- Once contributors are in order, their priorities have done their work. -/
def unranked (p : Pipeline) : Pipeline :=
  { p with contributors := p.contributors.map Contributor.unranked }

theorem contributeAll_unranked (p : Pipeline) (st : BuildState) (l : List Contributor) :
    p.unranked.contributeAll st (l.map Contributor.unranked) = p.contributeAll st l := by
  induction l generalizing st with
  | nil => rfl
  | cons c rest ih =>
    have hstep : p.unranked.contribute st c.unranked = p.contribute st c := rfl
    rw [List.map_cons, contributeAll, contributeAll, hstep]
    cases p.contribute st c with
    | error e => rfl
    | ok st' => exact ih st'

theorem build_unranked (p : Pipeline) : p.unranked.build = p.build := by
  have hrun := contributeAll_unranked p p.start p.contributors
  refine Prod.ext ?_ ?_
  · rw [build_fst, build_fst, ← hrun]
    rfl
  · rw [build_snd, build_snd, ← hrun]
    rfl

theorem nodup_ids_unranked (hids : (p.contributors.map Contributor.id).Nodup) :
    (p.unranked.contributors.map Contributor.id).Nodup := by
  rw [unranked, List.map_map]
  exact hids

theorem Apart.unranked (h : p.Apart) : p.unranked.Apart where
  contributors c hc := by
    obtain ⟨c', hc', rfl⟩ := List.mem_map.mp hc
    exact h.contributors c' hc'
  filters := h.filters
  sections c hc d hd := by
    obtain ⟨c', hc', rfl⟩ := List.mem_map.mp hc
    obtain ⟨d', hd', rfl⟩ := List.mem_map.mp hd
    exact h.sections c' hc' d' hd'

/-- The same contributors give the same schema in any order and with any priorities. -/
theorem build_schema_of_perm (h : p.Apart) (hids : (p.contributors.map Contributor.id).Nodup)
    {l : List Contributor}
    (hl : l.map Contributor.unranked ~ p.contributors.map Contributor.unranked) :
    { p with contributors := l : Pipeline }.build.2.map BuildOutput.schema =
      .ok (p.unranked.together p.unranked.contributors) := by
  have hids' : ((l.map Contributor.unranked).map Contributor.id).Nodup :=
    (hl.map _).nodup_iff.mpr (nodup_ids_unranked hids)
  rw [← together_eq_of_perm h.unranked (nodup_ids_unranked hids) hl, ← build_unranked]
  exact build_schema_eq_together (h.unranked.reordered hl) hids'

/-- Other priorities put the same contributors in another order. -/
theorem map_unranked_ofLists_assign (π : Nat → Int32) (cs : List Contributor) (fs : List Filter) :
    (ofLists (assign π cs) fs).contributors.map Contributor.unranked ~
      (ofLists cs fs).contributors.map Contributor.unranked := by
  have hkept (cs : List Contributor) : (ofLists cs fs).contributors.map Contributor.unranked ~
      (Keyed.ofList (cs.map Contributor.unranked) : Keyed Contributor Contributor.id).toList := by
    rw [← Keyed.map_toList_ofList]
    exact (List.mergeSort_perm _ _).map _
  refine (hkept _).trans ?_
  rw [map_unranked_assign]
  exact (hkept cs).symm

/-- **Contributors that keep apart may run in any order.**  If no contributor and no filter looks at
anything or fails, and no two contributors bring sections with the same id or the same priority,
then there is one schema that is built whatever priorities the contributors have, and whatever order
they run in. -/
theorem build_schema_any_order {settings : Pipeline} {cs : List Contributor} {fs : List Filter}
    (h : (settings.withLists cs fs).Apart) :
    ∃ schema,
      (∀ π, (settings.withLists (assign π cs) fs).build.2.map BuildOutput.schema = .ok schema) ∧
      ∀ order, order ~ (settings.withLists cs fs).contributors →
        { settings.withLists cs fs with contributors := order : Pipeline }.build.2.map
          BuildOutput.schema = .ok schema := by
  have hids : ((settings.withLists cs fs).contributors.map Contributor.id).Nodup :=
    nodup_ids_ofLists cs fs
  exact ⟨_, fun π => build_schema_of_perm h hids (map_unranked_ofLists_assign π cs fs),
    fun order horder => build_schema_of_perm h hids (horder.map _)⟩

end Pipeline

/-! ### An accent that nobody sets -/

namespace Sample

/-- A color that is left for somebody else to set. -/
def openColor (id : String) : Entry := { id, kind := some .color, default := some .unset }

def base : Contributor :=
  .always "base" 10 .builtIn
    ⟨Keyed.ofList [{ id := "colors", priority := 5, options := Keyed.ofList [openColor "accent"] }]⟩

def shop : Contributor :=
  .always "shop" 20 .childExtension
    ⟨Keyed.ofList [
      { id := "banner"
        priority := 1
        options := Keyed.ofList [openColor "accent", openColor "frame"] }]⟩

/-- A filter that sets the frame of the shop. -/
def border : Filter where
  id := "border"
  target := "shop"
  priority := 10
  run _ c := .ok (c.setDefault "frame" (some (.text "black")))

/-- The accent is up to the application. -/
def accented : Pipeline :=
  { contributors := [], filters := [], defaults := [("accent", .text "teal")] }

theorem accented_withLists : accented.withLists [base, shop] [border] =
    { accented with contributors := [base, shop], filters := [border] } := by
  have hcontributors : (Pipeline.ofLists [base, shop] [border]).contributors = [base, shop] := by
    rw [Pipeline.contributors_ofLists (by decide)]
    exact StableSort.mergeSort_pair base shop
  have hfilters : (Pipeline.ofLists [base, shop] [border]).filters = [border] :=
    List.mergeSort_singleton border
  rw [Pipeline.withLists, hcontributors, hfilters]

theorem accented_apart : (accented.withLists [base, shop] [border]).Apart := by
  rw [accented_withLists]
  constructor
  · intro c hc
    rcases List.mem_pair.mp hc with rfl | rfl
    · exact Contributor.always_blind ..
    · exact Contributor.always_blind ..
  · intro f hf
    rw [List.mem_singleton.mp hf]
    exact ⟨fun c => c.setDefault "frame" (some (.text "black")), fun _ _ => rfl⟩
  · intro c hc d hd hne
    rcases List.mem_pair.mp hc with rfl | rfl <;> rcases List.mem_pair.mp hd with rfl | rfl
    · exact absurd rfl hne
    · decide
    · decide
    · exact absurd rfl hne

end Sample

/-- The banner comes first even if the shop runs last, and both sections get the accent of the
application. -/
theorem Pipeline.build_schema_any_order_shop :
    (Sample.accented.withLists [Sample.base, Sample.shop] [Sample.border]).Apart ∧
    ∃ schema,
      (∀ π, (Sample.accented.withLists (assign π [Sample.base, Sample.shop])
        [Sample.border]).build.2.map BuildOutput.schema = .ok schema) ∧
      schema.sections.map (fun s => (s.origin, (s.option? "accent").bind Entry.default)) =
        [(some "shop", some (.text "teal")), (some "base", some (.text "teal"))] := by
  obtain ⟨schema, hpriorities, horders⟩ := build_schema_any_order Sample.accented_apart
  refine ⟨Sample.accented_apart, schema, hpriorities, ?_⟩
  have hbuild := horders [Sample.base, Sample.shop] (by rw [Sample.accented_withLists])
  rw [Sample.accented_withLists] at hbuild
  rw [← Except.ok.inj hbuild]
  show (List.mergeSort [_, _] _).map _ = _
  rw [StableSort.mergeSort_pair]
  rfl

end ThemeOptions
