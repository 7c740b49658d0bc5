import ThemeOptions.Proofs.Slotted.Registration
import ThemeOptions.Slotted.Pipeline

/-!
# The turns of a general build

A build that does not fail gives every contributor its turn, one after the other, and what it holds
at the end is told by its turns.  What every turn keeps is therefore kept by the build
(`Pipeline.contributeAll_induct`), and its findings are those of the turns and those at the end,
kind by kind.
-/

namespace ThemeOptions.Slotted

namespace Pipeline

variable {p : Pipeline} {st : BuildState} {l : List Contributor}

/-! ### From one turn to the next -/

/-- A contributor that does not fail has a turn. -/
theorem exists_turn {c : Contributor} (h : (p.contribute st c).2 = none) :
    ∃ t : Turn, t.contributor = c.id ∧ t.seen = st.registry ∧
      (p.contribute st c).1 = st.next t := by
  unfold contribute at h ⊢
  rcases hbring : p.bring ⟨st.registry, p.house, c.id⟩ c with ⟨caused, e | ⟨returned, filtered⟩⟩
  · rw [hbring] at h
    exact absurd h (Option.some_ne_none e)
  · exact ⟨_, rfl, rfl, rfl⟩

/-- The turn of the first of several contributors. -/
theorem contributeAll_cons {c : Contributor} (h : (p.contributeAll st (c :: l)).2 = none) :
    ∃ t : Turn, t.contributor = c.id ∧ t.seen = st.registry ∧
      (p.contributeAll (st.next t) l).2 = none ∧
      (p.contributeAll st (c :: l)).1 = (p.contributeAll (st.next t) l).1 := by
  rw [contributeAll] at h ⊢
  rcases hc : p.contribute st c with ⟨st', _ | e⟩
  · rw [hc] at h
    have hnone : (p.contribute st c).2 = none := by rw [hc]
    obtain ⟨t, hid, hseen, hnext⟩ := exists_turn hnone
    obtain rfl : st' = st.next t := (congrArg Prod.fst hc).symm.trans hnext
    exact ⟨t, hid, hseen, h, rfl⟩
  · rw [hc] at h
    exact absurd h (by simp)

/-- What every turn keeps, a run of contributors keeps. -/
theorem contributeAll_induct {P : BuildState → Prop}
    (step : ∀ st (t : Turn), t.seen = st.registry → P st → P (st.next t)) (h : P st)
    (hok : (p.contributeAll st l).2 = none) : P (p.contributeAll st l).1 := by
  induction l generalizing st with
  | nil => exact h
  | cons c rest ih =>
    obtain ⟨t, -, hseen, hrest, heq⟩ := contributeAll_cons hok
    rw [heq]
    exact ih (step st t hseen h) hrest

theorem map_contributor (hok : (p.contributeAll st l).2 = none) :
    (p.contributeAll st l).1.turns.map Turn.contributor =
      st.turns.map Turn.contributor ++ l.map Contributor.id := by
  induction l generalizing st with
  | nil => exact (List.append_nil _).symm
  | cons c rest ih =>
    obtain ⟨t, hid, -, hrest, heq⟩ := contributeAll_cons hok
    rw [heq, ih hrest, BuildState.next, List.map_append, List.map_singleton, hid, List.map_cons,
      List.append_assoc, List.singleton_append]

/-! ### A build -/

theorem toList_start (p : Pipeline) : p.start.registry.sections.toList = [] := by
  unfold start
  split <;> rfl

/-- Where all contributors have run. -/
def final (p : Pipeline) : BuildState := (p.contributeAll p.start p.contributors).1

theorem build_eq_ok_iff {out : BuildOutput} :
    p.build.2 = .ok out ↔
      (p.contributeAll p.start p.contributors).2 = none ∧ p.finish p.final = out := by
  unfold build final
  rcases p.contributeAll p.start p.contributors with ⟨st, _ | e⟩ <;> simp

/-- What holds at the start, and is kept by every turn, holds at the end of a build. -/
theorem build_induct {P : BuildState → Prop}
    (step : ∀ st (t : Turn), t.seen = st.registry → P st → P (st.next t)) (h : P p.start)
    {out : BuildOutput} (hok : p.build.2 = .ok out) : P p.final :=
  contributeAll_induct step h (build_eq_ok_iff.mp hok).1

/-- What every supplied default keeps, the application's defaults keep. -/
theorem supplyDefaults_induct {P : Registry → Prop}
    (step : ∀ r id v, P r → P (r.supplyDefault id v).2) {r : Registry} (h : P r) :
    P (p.supplyDefaults r) := by
  unfold supplyDefaults
  induction p.defaults generalizing r with
  | nil => exact h
  | cons d ds ih => exact ih (step r d.1 d.2 h)

theorem schema_of_build {out : BuildOutput} (hok : p.build.2 = .ok out) :
    out.schema = p.merged.schema := by
  obtain ⟨-, rfl⟩ := build_eq_ok_iff.mp hok
  rfl

theorem findings_of_build (hon : p.options.diagnostics = true) {out : BuildOutput}
    (hok : p.build.2 = .ok out) :
    out.findings = p.turns.flatMap Turn.findings ++
      p.turns.flatMap fun t => p.merged.openDefaultFindings (some t.contributor) t.returned := by
  obtain ⟨-, rfl⟩ := build_eq_ok_iff.mp hok
  show (if p.options.diagnostics then _ else []) = _
  rw [if_pos hon]
  rfl

/-- A registered section is the first with its id that came through the filters in one of the
turns. -/
theorem exists_turn_of_mem_final {out : BuildOutput} (hok : p.build.2 = .ok out) :
    ∀ s ∈ p.final.registry.sections.toList, ∃ t ∈ p.turns, ∃ s₀,
      t.filtered.items.find? (·.id == s.id) = some s₀ ∧ s = s₀.withOrigin (some t.contributor) := by
  refine build_induct (P := fun st => ∀ s ∈ st.registry.sections.toList, ∃ t ∈ st.turns, ∃ s₀,
    t.filtered.items.find? (·.id == s.id) = some s₀ ∧ s = s₀.withOrigin (some t.contributor))
    ?_ ?_ hok
  · intro st t hseen h s hs
    have hfound : ((t.seen.tell t.caused).section? s.id).or
        ((t.filtered.items.find? (·.id == s.id)).map
          (Section.withOrigin (some t.contributor))) = some s := by
      rw [← Registry.section?_register]
      exact Keyed.find?_eq_some_iff.mpr ⟨hs, rfl⟩
    rcases Option.or_eq_some_iff.mp hfound with hold | ⟨-, hnew⟩
    · obtain ⟨u, hu, hsection⟩ := h s (hseen ▸ (Keyed.find?_eq_some_iff.mp hold).1)
      exact ⟨u, List.mem_append_left _ hu, hsection⟩
    · obtain ⟨s₀, hs₀, rfl⟩ := Option.map_eq_some_iff.mp hnew
      exact ⟨t, List.mem_append_right _ List.mem_cons_self, s₀, hs₀, rfl⟩
  · intro s hs
    rw [toList_start] at hs
    exact absurd hs List.not_mem_nil

theorem map_contributor_turns {out : BuildOutput} (hok : p.build.2 = .ok out) :
    p.turns.map Turn.contributor = p.contributors.map Contributor.id :=
  map_contributor (build_eq_ok_iff.mp hok).1

/-- Whatever is in the lists, the contributors of the pipeline have distinct ids. -/
theorem nodup_ids_ofLists (cs : List Contributor) (fs : List Filter) :
    ((ofLists cs fs).contributors.map Contributor.id).Nodup := by
  have hperm := List.mergeSort_perm
    (Keyed.ofList cs : Keyed Contributor Contributor.id).toList fun a b => a.priority ≤ b.priority
  exact (hperm.map _).nodup_iff.mpr (Keyed.ofList cs).nodup_keys

end Pipeline

/-! ### Findings by their kinds -/

theorem kind_of_mem_structureFindings {contributor : Option String} {c : Contribution}
    {f : Finding} (hf : f ∈ c.structureFindings contributor) : f.kind = .structuralViolation := by
  obtain ⟨s, -, hf⟩ := List.mem_flatMap.mp hf
  rcases List.mem_append.mp hf with hf | hf
  · -- the section by itself has no options, so the finding is that it has no title
    have hnone : s.head.options.toList = [] := rfl
    rw [ThemeOptions.Section.structureFindings, hnone, List.flatMap_nil, List.append_nil] at hf
    split at hf
    · exact absurd hf List.not_mem_nil
    · rw [List.mem_singleton.mp hf]
  · obtain ⟨e, -, hf⟩ := List.mem_flatMap.mp hf
    obtain ⟨problem, -, rfl⟩ := List.mem_map.mp hf
    rfl

theorem Registry.kind_of_mem_duplicateFindings {r : Registry} {contributor : Option String}
    {c : Contribution} {f : Finding} (hf : f ∈ r.duplicateFindings contributor c) :
    f.kind = .duplicateOption := by
  obtain ⟨x, -, rfl⟩ := List.mem_map.mp hf
  rfl

theorem kind_of_mem_conflictFindings {contributor : Option String} {report : Report} {f : Finding}
    (hf : f ∈ ThemeOptions.Pipeline.conflictFindings contributor report) :
    f.kind = .mergeConflict := by
  obtain ⟨c, -, rfl⟩ := List.mem_map.mp hf
  rfl

theorem Registry.kind_of_mem_openDefaultFindings {r : Registry} {contributor : Option String}
    {c : Contribution} {f : Finding} (hf : f ∈ r.openDefaultFindings contributor c) :
    f.kind = .defaultIncomplete := by
  obtain ⟨s, -, hf⟩ := List.mem_flatMap.mp hf
  cases hs : r.section? s.id with
  | none =>
    rw [hs] at hf
    exact absurd hf List.not_mem_nil
  | some registered =>
    simp only [hs] at hf
    split at hf
    · obtain ⟨e, -, rfl⟩ := List.mem_map.mp hf
      rfl
    · exact absurd hf List.not_mem_nil

theorem filter_kind_of_forall {fs : List Finding} {kind kind' : FindingKind}
    (h : ∀ f ∈ fs, f.kind = kind') :
    fs.filter (·.kind == kind) = if kind' = kind then fs else [] := by
  by_cases hkind : kind' = kind
  · rw [if_pos hkind]
    exact List.filter_eq_self.mpr fun f hf => by rw [h f hf, hkind, beq_self_eq_true]
  · rw [if_neg hkind]
    exact List.filter_eq_nil_iff.mpr fun f hf => by
      rw [h f hf, beq_iff_eq]
      exact hkind

theorem Turn.filter_findings (t : Turn) (kind : FindingKind) :
    t.findings.filter (·.kind == kind) =
      (if .structuralViolation = kind then t.filtered.structureFindings (some t.contributor)
        else []) ++
      (if .duplicateOption = kind then
        t.seen.duplicateFindings (some t.contributor) t.filtered else []) ++
      if .mergeConflict = kind then
        ThemeOptions.Pipeline.conflictFindings (some t.contributor) t.report else [] := by
  rw [findings, List.filter_append, List.filter_append,
    filter_kind_of_forall fun _ => kind_of_mem_structureFindings,
    filter_kind_of_forall fun _ => Registry.kind_of_mem_duplicateFindings,
    filter_kind_of_forall fun _ => kind_of_mem_conflictFindings]

namespace Pipeline

variable {p : Pipeline}

/-- The findings of one kind are those of the turns, or those at the end. -/
theorem filter_findings_of_build (hon : p.options.diagnostics = true) {out : BuildOutput}
    (hok : p.build.2 = .ok out) (kind : FindingKind) :
    out.findings.filter (·.kind == kind) =
      (p.turns.flatMap fun t => t.findings.filter (·.kind == kind)) ++
      if .defaultIncomplete = kind then
        p.turns.flatMap fun t => p.merged.openDefaultFindings (some t.contributor) t.returned
      else [] := by
  have hopen : ∀ f ∈ p.turns.flatMap fun t =>
      p.merged.openDefaultFindings (some t.contributor) t.returned,
      f.kind = .defaultIncomplete := by
    intro f hf
    obtain ⟨t, -, hf⟩ := List.mem_flatMap.mp hf
    exact Registry.kind_of_mem_openDefaultFindings hf
  rw [findings_of_build hon hok, List.filter_append, List.filter_flatMap,
    filter_kind_of_forall hopen]

theorem duplicateFindings_of_build (hon : p.options.diagnostics = true) {out : BuildOutput}
    (hok : p.build.2 = .ok out) :
    out.findings.filter (·.kind == .duplicateOption) =
      p.turns.flatMap fun t => t.seen.duplicateFindings (some t.contributor) t.filtered := by
  rw [filter_findings_of_build hon hok]
  simp [Turn.filter_findings]

theorem conflictFindings_of_build (hon : p.options.diagnostics = true) {out : BuildOutput}
    (hok : p.build.2 = .ok out) :
    out.findings.filter (·.kind == .mergeConflict) =
      p.turns.flatMap fun t =>
        ThemeOptions.Pipeline.conflictFindings (some t.contributor) t.report := by
  rw [filter_findings_of_build hon hok]
  simp [Turn.filter_findings]

theorem openDefaultFindings_of_build (hon : p.options.diagnostics = true) {out : BuildOutput}
    (hok : p.build.2 = .ok out) :
    out.findings.filter (·.kind == .defaultIncomplete) =
      p.turns.flatMap fun t => p.merged.openDefaultFindings (some t.contributor) t.returned := by
  rw [filter_findings_of_build hon hok]
  simp [Turn.filter_findings]

end Pipeline

end ThemeOptions.Slotted
