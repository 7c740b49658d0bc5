import Mathlib.Data.List.Flatten
import ThemeOptions.Compile
import ThemeOptions.Pipeline
import ThemeOptions.Proofs.Collections
import ThemeOptions.Proofs.Registration
import ThemeOptions.Proofs.StableSort

/-!
# Steps and runs of a build

What a build does, once for each of its parts: the lists that a pipeline is put together from, the
filters of one contribution, a contributor (`contribute_eq_ok_iff`), several contributors
(`contributeAll_append`), the application's defaults and the final sorting.  Everything in the
registry comes from a contributor that ran (`BuildState.From`).
-/

open scoped List

namespace ThemeOptions

namespace Pipeline

/-! ### Lists of contributors and filters -/

/-- The pipeline that is put together from these contributors and filters, with the settings of
another one. -/
def withLists (settings : Pipeline) (cs : List Contributor) (fs : List Filter) : Pipeline :=
  { settings with
    contributors := (ofLists cs fs).contributors
    filters := (ofLists cs fs).filters }

/-- Whatever is in the lists, the contributors of the pipeline have distinct ids. -/
theorem nodup_ids_ofLists (cs : List Contributor) (fs : List Filter) :
    ((ofLists cs fs).contributors.map Contributor.id).Nodup := by
  have hperm := List.mergeSort_perm
    (Keyed.ofList cs : Keyed Contributor Contributor.id).toList fun a b => a.priority ≤ b.priority
  exact (hperm.map _).nodup_iff.mpr (Keyed.ofList cs).nodup_keys

theorem contributors_ofLists {cs : List Contributor} (h : (cs.map Contributor.id).Nodup)
    (fs : List Filter) :
    (ofLists cs fs).contributors = cs.mergeSort (StableSort.byPriority Contributor.priority) :=
  congrArg (List.mergeSort · _) (Keyed.toList_ofList_of_nodup h)

theorem filters_ofLists (cs : List Contributor) (fs : List Filter) (id : String) :
    (ofLists cs fs).filters.filter (·.target == id) =
      (fs.filter (·.target == id)).mergeSort (StableSort.byPriority Filter.priority) :=
  StableSort.filter_mergeSort_byPriority Filter.priority (·.target == id) fs

/-! ### Filters -/

/-- Only the filters for the contributor matter. -/
theorem applyFilters_filter (context : Context) (fs : List Filter) (c : Contribution) :
    applyFilters context (fs.filter (·.target == context.contributor)) c =
      applyFilters context fs c := by
  induction fs generalizing c with
  | nil => rfl
  | cons f rest ih =>
    by_cases h : (f.target == context.contributor) = true
    · rw [List.filter_cons, if_pos h, applyFilters, applyFilters, if_pos h, if_pos h]
      cases f.run context c with
      | error failure => rfl
      | ok c' => exact ih c'
    · rw [List.filter_cons, if_neg h, applyFilters, if_neg h]
      exact ih c

theorem applyFilters_congr {context : Context} {fs fs' : List Filter}
    (h : fs'.filter (·.target == context.contributor) =
      fs.filter (·.target == context.contributor)) (c : Contribution) :
    applyFilters context fs' c = applyFilters context fs c := by
  rw [← applyFilters_filter context fs', h, applyFilters_filter]

/-! ### One contributor -/

/-- What the contributors and filters see when a contributor runs. -/
def context (p : Pipeline) (st : BuildState) (id : String) : Context := ⟨st.registry, p.house, id⟩

/-- The state after a contribution has come through the filters. -/
def accept (p : Pipeline) (st : BuildState) (id : String) (returned filtered : Contribution) :
    BuildState where
  registry := (st.registry.register (some id) filtered).2
  findings := st.findings ++
    (if p.options.diagnostics then
      registrationFindings st.registry (some id) filtered
        (st.registry.register (some id) filtered).1
    else [])
  returned := st.returned ++ [(id, returned)]

theorem contribute_eq (p : Pipeline) (st : BuildState) (c : Contributor) :
    p.contribute st c =
      match c.run (p.context st c.id) with
      | .error failure => .error ⟨c.id, failure⟩
      | .ok returned =>
        (applyFilters (p.context st c.id) p.filters returned).map (p.accept st c.id returned) := by
  unfold contribute
  cases hrun : c.run (p.context st c.id) with
  | error failure =>
    rw [context] at hrun
    simp only [hrun]
  | ok returned =>
    cases hfilters : applyFilters (p.context st c.id) p.filters returned with
    | error e =>
      rw [context] at hrun hfilters
      simp only [context, hrun, hfilters, Except.map]
    | ok filtered =>
      rw [context] at hrun hfilters
      simp only [context, hrun, hfilters, Except.map, accept]

theorem contribute_eq_ok_iff {p : Pipeline} {st st' : BuildState} {c : Contributor} :
    p.contribute st c = .ok st' ↔
      ∃ returned filtered, c.run (p.context st c.id) = .ok returned ∧
        applyFilters (p.context st c.id) p.filters returned = .ok filtered ∧
        p.accept st c.id returned filtered = st' := by
  rw [contribute_eq]
  cases hrun : c.run (p.context st c.id) with
  | error failure => simp
  | ok returned =>
    cases hfilters : applyFilters (p.context st c.id) p.filters returned with
    | error e => simp [hfilters, Except.map]
    | ok filtered => simp [hfilters, Except.map]

/-- Of the filters only those for the contributor matter to its step. -/
theorem contribute_congr {p p' : Pipeline} {c : Contributor} (hhouse : p'.house = p.house)
    (hoptions : p'.options = p.options)
    (hfilters : p'.filters.filter (·.target == c.id) = p.filters.filter (·.target == c.id))
    (st : BuildState) : p'.contribute st c = p.contribute st c := by
  have hcontext : p'.context st c.id = p.context st c.id := by rw [context, context, hhouse]
  have haccept : p'.accept st c.id = p.accept st c.id := by
    funext returned filtered
    rw [accept, accept, hoptions]
  rw [contribute_eq, contribute_eq, hcontext, haccept]
  cases c.run (p.context st c.id) with
  | error failure => rfl
  | ok returned =>
    exact congrArg (Except.map (p.accept st c.id returned)) (applyFilters_congr hfilters returned)

/-! ### Several contributors -/

theorem contributeAll_congr {p p' : Pipeline} {l : List Contributor}
    (h : ∀ c ∈ l, ∀ st, p'.contribute st c = p.contribute st c) (st : BuildState) :
    p'.contributeAll st l = p.contributeAll st l := by
  induction l generalizing st with
  | nil => rfl
  | cons c rest ih =>
    rw [contributeAll, contributeAll, h c List.mem_cons_self]
    cases p.contribute st c with
    | error e => rfl
    | ok st' => exact ih (fun d hd => h d (List.mem_cons_of_mem _ hd)) st'

theorem contributeAll_append (p : Pipeline) (st : BuildState) (l l' : List Contributor) :
    p.contributeAll st (l ++ l') =
      match p.contributeAll st l with
      | (st', none) => p.contributeAll st' l'
      | (st', some e) => (st', some e) := by
  induction l generalizing st with
  | nil => rfl
  | cons c rest ih =>
    rw [List.cons_append, contributeAll, contributeAll]
    cases p.contribute st c with
    | ok st' => exact ih st'
    | error e => rfl

/-- What every contributor keeps, a run of contributors keeps. -/
theorem contributeAll_induct {p : Pipeline} {P : BuildState → Prop} {l : List Contributor}
    (step : ∀ st c st', c ∈ l → P st → p.contribute st c = .ok st' → P st') {st : BuildState}
    (h : P st) : P (p.contributeAll st l).1 := by
  induction l generalizing st with
  | nil => exact h
  | cons c rest ih =>
    rw [contributeAll]
    cases hc : p.contribute st c with
    | error e => exact h
    | ok st' =>
      refine ih (fun st c st' hm => step st c st' (List.mem_cons_of_mem _ hm)) ?_
      exact step st c st' List.mem_cons_self h hc

end Pipeline

/-- All sections and contributions come from contributors with a property. -/
structure BuildState.From (P : String → Prop) (st : BuildState) : Prop where
  sections : ∀ s ∈ st.registry.sections.toList, ∃ id, s.origin = some id ∧ P id
  returned : ∀ x ∈ st.returned, P x.1

theorem BuildState.From.contribute {p : Pipeline} {P : String → Prop} {st st' : BuildState}
    {c : Contributor} (h : st.From P) (hc : P c.id) (hok : p.contribute st c = .ok st') :
    st'.From P := by
  obtain ⟨returned, filtered, -, -, rfl⟩ := Pipeline.contribute_eq_ok_iff.mp hok
  constructor
  · intro s hs
    simp only [Pipeline.accept, Registry.toList_register, List.mem_append, List.mem_map] at hs
    rcases hs with hs | ⟨t, -, rfl⟩
    · exact h.sections s hs
    · exact ⟨c.id, rfl, hc⟩
  · intro x hx
    rcases List.mem_append.mp hx with hx | hx
    · exact h.returned x hx
    · rw [List.mem_singleton.mp hx]
      exact hc

theorem BuildState.From.contributeAll {p : Pipeline} {P : String → Prop} {st : BuildState}
    {l : List Contributor} (hl : ∀ c ∈ l, P c.id) (h : st.From P) :
    (p.contributeAll st l).1.From P :=
  Pipeline.contributeAll_induct (fun _ c _ hc h hok => h.contribute (hl c hc) hok) h

namespace Pipeline

/-- Where a build starts. -/
def start (p : Pipeline) : BuildState :=
  { registry := if p.watched then Registry.watched else {} }

@[simp] theorem toList_start (p : Pipeline) : p.start.registry.sections.toList = [] := by
  unfold start
  split <;> rfl

theorem start_from (p : Pipeline) (P : String → Prop) : p.start.From P := by
  constructor
  · intro s hs
    exact absurd hs (by simp)
  · intro x hx
    exact absurd hx (by simp [start])

/-! ### The application's defaults -/

/-- A section after the application's defaults. -/
def fillDefaults (p : Pipeline) (s : Section) : Section :=
  p.defaults.foldl (fun s (id, v) => Registry.fill id v s) s

theorem toList_supplyDefaults (p : Pipeline) (r : Registry) :
    (p.supplyDefaults r).sections.toList = r.sections.toList.map p.fillDefaults := by
  unfold supplyDefaults fillDefaults
  induction p.defaults generalizing r with
  | nil => exact (List.map_id _).symm
  | cons d ds ih =>
    rw [List.foldl_cons, ih, Registry.toList_supplyDefault, List.map_map]
    rfl

/-- Defaults change the options of a section and nothing else. -/
theorem fillDefaults_eq (p : Pipeline) (s : Section) :
    p.fillDefaults s = { s with options := (p.fillDefaults s).options } := by
  unfold fillDefaults
  induction p.defaults generalizing s with
  | nil => rfl
  | cons d ds ih =>
    rw [List.foldl_cons]
    exact ih (Registry.fill d.1 d.2 s)

@[simp] theorem priority_fillDefaults (p : Pipeline) (s : Section) :
    (p.fillDefaults s).priority = s.priority := by
  rw [fillDefaults_eq]

@[simp] theorem origin_fillDefaults (p : Pipeline) (s : Section) :
    (p.fillDefaults s).origin = s.origin := by
  rw [fillDefaults_eq]

/-! ### The result -/

theorem build_fst (p : Pipeline) :
    p.build.1 = (p.contributeAll p.start p.contributors).1.registry.observed.getD [] := rfl

theorem build_snd (p : Pipeline) :
    p.build.2 =
      match (p.contributeAll p.start p.contributors).2 with
      | some e => .error e
      | none => .ok (p.finish (p.contributeAll p.start p.contributors).1) := rfl

theorem build_eq_error_iff {p : Pipeline} {e : BuildError} :
    p.build.2 = .error e ↔ (p.contributeAll p.start p.contributors).2 = some e := by
  rw [build_snd]
  cases (p.contributeAll p.start p.contributors).2 <;> simp

theorem build_eq_ok_iff {p : Pipeline} {out : BuildOutput} :
    p.build.2 = .ok out ↔ (p.contributeAll p.start p.contributors).2 = none ∧
      p.finish (p.contributeAll p.start p.contributors).1 = out := by
  rw [build_snd]
  cases (p.contributeAll p.start p.contributors).2 <;> simp

/-- How the filters for different contributors are interleaved does not matter to a build. -/
theorem build_congr {p p' : Pipeline} (hcontributors : p'.contributors = p.contributors)
    (hfilters : ∀ id, p'.filters.filter (·.target == id) = p.filters.filter (·.target == id))
    (hhouse : p'.house = p.house) (hdefaults : p'.defaults = p.defaults)
    (hoptions : p'.options = p.options) (hwatched : p'.watched = p.watched) :
    p'.build = p.build := by
  have hrun : p'.contributeAll p'.start p'.contributors =
      p.contributeAll p.start p.contributors := by
    have hstart : p'.start = p.start := by rw [start, start, hwatched]
    rw [hstart, hcontributors]
    exact contributeAll_congr (fun c _ => contribute_congr hhouse hoptions (hfilters c.id)) _
  have hfinish : ∀ st, p'.finish st = p.finish st := by
    intro st
    rw [finish, finish, supplyDefaults, supplyDefaults, hdefaults, hoptions]
  refine Prod.ext ?_ ?_
  · rw [build_fst, build_fst, hrun]
  · rw [build_snd, build_snd, hrun, hfinish]

end Pipeline

end ThemeOptions
