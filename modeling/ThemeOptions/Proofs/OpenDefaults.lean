import ThemeOptions.Proofs.RepeatedOptions

/-!
# Defaults that are left open

Over a whole build, the check for open defaults finds the options that a contributor returned open
and whose ids lead to an option that is open in the section of this contributor at the end, one
finding for each of them (`Registry.openDefaultFindings_eq`).  Two of its traits follow.

What a filter opens is not found: what stands open under an id at the end is named exactly if its
contributor had already returned an open option with this id (`Pipeline.open_options_named`).  And a
default that is supplied last fills what stands open under its id, takes the findings about it away,
and changes nothing else (`Pipeline.open_defaults_found`).

The check goes from the own id of an option to what stands under it.  An option that has got another
id is therefore not found, be it open to the end (`renamed_open_unnamed`).
-/

open scoped List

namespace ThemeOptions

/-- The finding about an open option tells the contributor, the section and the option. -/
theorem openDefaultFinding_inj {origin origin' : Option String} {s s' : Section} {e e' : Entry} :
    openDefaultFinding origin s e = openDefaultFinding origin' s' e' ↔
      origin = origin' ∧ s.id = s'.id ∧ e.id = e'.id := by
  unfold openDefaultFinding
  constructor
  · intro h
    obtain ⟨-, horigin, hid, hmessage⟩ := Finding.mk.injEq .. ▸ h
    rw [hid] at hmessage
    exact ⟨horigin, by simpa using hmessage, hid⟩
  · rintro ⟨rfl, hs, he⟩
    rw [hs, he]

end ThemeOptions

namespace ThemeOptions.Slotted

/-- The options that a contribution leaves open, with their sections. -/
def Contribution.deferred (c : Contribution) : List (Section × Entry) :=
  (Schema.entries ⟨c.items⟩).filter (·.2.hasUnsetDefault)

/-- Whether an option of a contributor is still open in a schema: the section with its section's id
is of that contributor, and what stands there under the option's id is open. -/
def Schema.leavesOpen (s : Schema) (contributor : String) (x : Section × Entry) : Bool :=
  (s.section? x.1.id).any fun sec =>
    sec.origin == some contributor && (sec.option? x.2.id).any Entry.hasUnsetDefault

/-! ### What is left open -/

/-- In a contribution in which everything stands in its place no two options have the same id in
sections with the same id. -/
theorem Contribution.InPlace.pairwise_deferred {c : Contribution} (h : c.InPlace) :
    c.deferred.Pairwise fun x y => ¬(x.1.id = y.1.id ∧ x.2.id = y.2.id) := by
  have hsections : c.items.Pairwise fun s t => s.id ≠ t.id :=
    List.pairwise_map.mp (h.sections.map_items ▸ c.sections.nodup_keys : (c.items.map _).Nodup)
  refine List.Pairwise.sublist List.filter_sublist ?_
  unfold Schema.entries
  rw [List.pairwise_flatMap]
  constructor
  · intro s hs
    have hoptions : s.entries.Pairwise fun e f => e.id ≠ f.id :=
      List.pairwise_map.mp
        ((h.options s hs).map_items ▸ s.options.nodup_keys : (s.entries.map _).Nodup)
    rw [List.pairwise_map]
    exact hoptions.imp fun hne hboth => hne hboth.2
  · refine hsections.imp fun {s t} hne x hx y hy hboth => ?_
    obtain ⟨e, -, rfl⟩ := List.mem_map.mp hx
    obtain ⟨f, -, rfl⟩ := List.mem_map.mp hy
    exact hne hboth.1

namespace Schema

theorem leavesOpen_iff {s : Schema} {contributor : String} {x : Section × Entry} :
    s.leavesOpen contributor x = true ↔ ∃ sec, s.section? x.1.id = some sec ∧
      sec.origin = some contributor ∧ ∃ e, sec.option? x.2.id = some e ∧
        e.hasUnsetDefault = true := by
  simp only [leavesOpen, Option.any_eq_true, Bool.and_eq_true, beq_iff_eq]

end Schema

namespace Registry

theorem section?_schema (r : Registry) (id : String) : r.schema.section? id = r.section? id :=
  (find?_eq_of_perm (List.mergeSort_perm _ _).symm r.sections.nodup_keys id).symm

/-- A section of the schema is found under its id. -/
theorem section?_of_mem_schema {r : Registry} {s : Section} (hs : s ∈ r.schema.sections) :
    r.schema.section? s.id = some s := by
  rw [section?_schema]
  exact Keyed.find?_eq_some_iff.mpr ⟨List.mem_mergeSort.mp hs, rfl⟩

/-- The check for open defaults, in terms of the schema. -/
theorem openDefaultFindings_eq (r : Registry) (contributor : String) (c : Contribution) :
    r.openDefaultFindings (some contributor) c =
      (c.deferred.filter (r.schema.leavesOpen contributor)).map fun x =>
        openDefaultFinding (some contributor) x.1.head x.2 := by
  unfold openDefaultFindings Contribution.deferred Schema.entries
  rw [List.filter_filter, List.filter_flatMap, List.map_flatMap]
  -- section by section, by what is registered under its id
  refine List.flatMap_congr fun s _ => ?_
  rw [List.filter_map, List.map_map]
  simp only [Function.comp_def, Schema.leavesOpen, section?_schema]
  cases r.section? s.id with
  | none => simp
  | some registered =>
    by_cases horigin : registered.origin = some contributor
    · simp only [horigin, beq_self_eq_true, if_true, Option.any_some, Bool.true_and,
        Section.openIn]
      exact congrArg _ (List.filter_congr fun e _ => Bool.and_comm _ _)
    · simp [horigin]

end Registry

/-! ### A further default -/

namespace Registry

variable {id : String} {v : Value}

theorem hasUnsetDefault_fillEntry (v : Value) (e : Entry) :
    (fillEntry v e).hasUnsetDefault = (e.hasUnsetDefault && v.isUnset) := by
  unfold fillEntry
  cases hopen : e.hasUnsetDefault with
  | true => rw [if_pos rfl, Entry.hasUnsetDefault_withDefault, Bool.true_and]
  | false => rw [if_neg Bool.false_ne_true, hopen, Bool.false_and]

/-- What stands open after a default has been supplied did so before. -/
theorem option?_of_option?_fill {s : Section} {k : String} {e : Entry}
    (he : (fill id v s).option? k = some e) (hopen : e.hasUnsetDefault = true) :
    s.option? k = some e := by
  rw [option?_fill] at he
  obtain ⟨e₀, he₀, rfl⟩ := Option.map_eq_some_iff.mp he
  rw [he₀]
  by_cases hid : (k == id) = true
  · -- an open option that is given an unset default again
    simp only [if_pos hid] at hopen ⊢
    rw [hasUnsetDefault_fillEntry, Bool.and_eq_true] at hopen
    unfold fillEntry
    rw [if_pos hopen.1, Value.isUnset_iff.mp hopen.2, ← Entry.hasUnsetDefault_iff.mp hopen.1]
    rfl
  · rw [if_neg hid]

theorem schema_supplyDefault (r : Registry) (id : String) (v : Value) :
    (r.supplyDefault id v).2.schema = ⟨r.schema.sections.map (fill id v)⟩ := by
  have hsorted : r.schema.sections.map (fill id v) =
      (r.sections.toList.map (fill id v)).mergeSort fun a b => a.priority ≤ b.priority :=
    List.map_mergeSort fun _ _ _ _ => rfl
  rw [hsorted]
  unfold schema
  rw [toList_supplyDefault]

theorem leavesOpen_supplyDefault (hv : v.isUnset = false) (r : Registry) (contributor : String)
    (x : Section × Entry) :
    (r.supplyDefault id v).2.schema.leavesOpen contributor x =
      (x.2.id != id && r.schema.leavesOpen contributor x) := by
  unfold Schema.leavesOpen
  rw [section?_schema, section?_schema, section?_supplyDefault]
  cases r.section? x.1.id with
  | none => simp
  | some sec =>
    have horigin : (fill id v sec).origin = sec.origin := rfl
    rw [Option.map_some, Option.any_some, Option.any_some, option?_fill, horigin]
    cases sec.option? x.2.id with
    | none => simp
    | some e =>
      rw [Option.map_some, Option.any_some, Option.any_some]
      by_cases hid : x.2.id = id
      · simp [hid, hasUnsetDefault_fillEntry, hv]
      · simp [hid]

/-- A default takes away the findings about the options with its id. -/
theorem openDefaultFindings_supplyDefault (hv : v.isUnset = false) (r : Registry)
    (contributor : String) (c : Contribution) :
    (r.supplyDefault id v).2.openDefaultFindings (some contributor) c =
      (r.openDefaultFindings (some contributor) c).filter (·.target != id) := by
  rw [openDefaultFindings_eq, openDefaultFindings_eq, List.filter_map, List.filter_filter]
  exact congrArg _ (List.filter_congr fun y _ => leavesOpen_supplyDefault hv r contributor y)

end Registry

namespace Pipeline

variable {p : Pipeline}

/-! ### The findings of a build -/

/-- The findings about open defaults are, turn by turn, the options that were returned open and are
still open. -/
theorem deferred_of_build (hon : p.options.diagnostics = true) {out : BuildOutput}
    (hok : p.build.2 = .ok out) :
    out.findings.filter (·.kind == .defaultIncomplete) =
      p.turns.flatMap fun t =>
        (t.returned.deferred.filter (out.schema.leavesOpen t.contributor)).map fun x =>
          openDefaultFinding (some t.contributor) x.1.head x.2 := by
  rw [openDefaultFindings_of_build hon hok, schema_of_build hok]
  exact List.flatMap_congr fun t _ => Registry.openDefaultFindings_eq _ t.contributor t.returned

/-- No two of these findings are equal, if no two contributors have the same id and what they return
stands in its place. -/
theorem nodup_openDefaultFindings {turns : List Turn} {s : Schema}
    (hdistinct : (turns.map Turn.contributor).Nodup) (hplace : ∀ t ∈ turns, t.returned.InPlace) :
    (turns.flatMap fun t => (t.returned.deferred.filter (s.leavesOpen t.contributor)).map fun x =>
      openDefaultFinding (some t.contributor) x.1.head x.2).Nodup := by
  unfold List.Nodup
  rw [List.pairwise_flatMap]
  constructor
  · intro t ht
    rw [List.pairwise_map]
    refine ((hplace t ht).pairwise_deferred.sublist List.filter_sublist).imp fun {x y} hne heq => ?_
    exact hne (openDefaultFinding_inj.mp heq).2
  · refine (List.pairwise_map.mp hdistinct).imp fun {t t'} hne f hf g hg heq => ?_
    obtain ⟨x, -, rfl⟩ := List.mem_map.mp hf
    obtain ⟨y, -, rfl⟩ := List.mem_map.mp hg
    exact hne (Option.some.inj (openDefaultFinding_inj.mp heq).1)

/-! ### What is open at the end -/

/-- What stands open at the end did so when it was registered. -/
theorem exists_open_final :
    ∀ s ∈ p.merged.sections.toList, ∃ s' ∈ p.final.registry.sections.toList,
      s'.id = s.id ∧ s'.origin = s.origin ∧
        ∀ id e, s.option? id = some e → e.hasUnsetDefault = true → s'.option? id = some e := by
  refine supplyDefaults_induct (P := fun r => ∀ s ∈ r.sections.toList,
    ∃ s' ∈ p.final.registry.sections.toList, s'.id = s.id ∧ s'.origin = s.origin ∧
      ∀ id e, s.option? id = some e → e.hasUnsetDefault = true → s'.option? id = some e) ?_ ?_
  · intro r k v h s hs
    obtain ⟨s₁, hs₁, rfl⟩ := List.mem_map.mp hs
    obtain ⟨s', hs', hid, horigin, hoptions⟩ := h s₁ hs₁
    exact ⟨s', hs', hid, horigin, fun id e he hopen =>
      hoptions id e (Registry.option?_of_option?_fill he hopen) hopen⟩
  · exact fun s hs => ⟨s, hs, rfl, rfl, fun _ _ he _ => he⟩

/-- What stands open at the end came open through the filters of its section's contributor. -/
theorem exists_filtered {out : BuildOutput} (hok : p.build.2 = .ok out) {s : Section}
    (hs : s ∈ out.schema.sections) {id : String} {e : Entry} (he : s.option? id = some e)
    (hopen : e.hasUnsetDefault = true) :
    ∃ t ∈ p.turns, s.origin = some t.contributor ∧
      ∃ s₀, t.filtered.items.find? (·.id == s.id) = some s₀ ∧ s₀.option? id = some e := by
  rw [schema_of_build hok] at hs
  obtain ⟨s', hs', hid, horigin, hoptions⟩ := exists_open_final s (List.mem_mergeSort.mp hs)
  obtain ⟨t, ht, s₀, hs₀, rfl⟩ := exists_turn_of_mem_final hok s' hs'
  refine ⟨t, ht, horigin.symm, s₀, ?_, hoptions id e he hopen⟩
  rw [← hid]
  exact hs₀

/-- It is named exactly if its contributor returned an open option with this id. -/
theorem openDefaultFinding_mem_iff (hon : p.options.diagnostics = true) {out : BuildOutput}
    (hok : p.build.2 = .ok out) {s : Section} (hs : s ∈ out.schema.sections) {id : String}
    {e : Entry} (he : s.option? id = some e) (hopen : e.hasUnsetDefault = true) :
    openDefaultFinding s.origin s.head { e with id } ∈ out.findings ↔
      ∃ t ∈ p.turns, s.origin = some t.contributor ∧
        ∃ x ∈ t.returned.deferred, x.1.id = s.id ∧ x.2.id = id := by
  have hkind : openDefaultFinding s.origin s.head { e with id } ∈ out.findings ↔
      openDefaultFinding s.origin s.head { e with id } ∈
        out.findings.filter (·.kind == .defaultIncomplete) := by
    rw [List.mem_filter]
    exact ⟨fun hf => ⟨hf, rfl⟩, fun hf => hf.1⟩
  rw [hkind, deferred_of_build hon hok, List.mem_flatMap]
  constructor
  · rintro ⟨t, ht, hf⟩
    obtain ⟨x, hx, heq⟩ := List.mem_map.mp hf
    obtain ⟨horigin, hsection, hoption⟩ := openDefaultFinding_inj.mp heq
    exact ⟨t, ht, horigin.symm, x, (List.mem_filter.mp hx).1, hsection, hoption⟩
  · rintro ⟨t, ht, horigin, x, hx, hsection, hoption⟩
    have hfound : out.schema.section? x.1.id = some s := by
      rw [hsection]
      rw [schema_of_build hok] at hs ⊢
      exact Registry.section?_of_mem_schema hs
    have hstill : out.schema.leavesOpen t.contributor x = true :=
      Schema.leavesOpen_iff.mpr ⟨s, hfound, horigin, e, hoption ▸ he, hopen⟩
    refine ⟨t, ht, List.mem_map.mpr ⟨x, List.mem_filter.mpr ⟨hx, hstill⟩, ?_⟩⟩
    exact openDefaultFinding_inj.mpr ⟨horigin.symm, hsection, hoption⟩

/-- **What is open at the end, and what is said about it.**  What stands open under an id in the
schema came open through the filters of the contributor to which its section belongs, under the same
id in the first section with its section's id.  It is named, and laid to this contributor, exactly
if the contributor had returned an open option with this id; what only a filter opened is not
named. -/
theorem open_options_named (hon : p.options.diagnostics = true) {out : BuildOutput}
    (hok : p.build.2 = .ok out) :
    ∀ s ∈ out.schema.sections, ∀ id e, s.option? id = some e → e.hasUnsetDefault = true →
      (∃ t ∈ p.turns, s.origin = some t.contributor ∧
        ∃ s₀, t.filtered.items.find? (·.id == s.id) = some s₀ ∧ s₀.option? id = some e) ∧
      (openDefaultFinding s.origin s.head { e with id } ∈ out.findings ↔
        ∃ t ∈ p.turns, s.origin = some t.contributor ∧
          ∃ x ∈ t.returned.deferred, x.1.id = s.id ∧ x.2.id = id) :=
  fun _ hs _ _ he hopen =>
    ⟨exists_filtered hok hs he hopen, openDefaultFinding_mem_iff hon hok hs he hopen⟩

end Pipeline

end ThemeOptions.Slotted

/-! ### A filter that opens a default -/

namespace ThemeOptions.Sample

/-- Colors whose accent is open. -/
def palette : Contribution where
  sections := Keyed.ofList
    [{ id := "colors"
       title := some "Colors"
       options := Keyed.ofList
        [(color "accent" "red" []).withDefault (some .unset), color "paper" "white" []] }]

/-- A theme that leaves its accent open. -/
def undecided : Contributor where
  id := "theme"
  priority := 10
  run _ := .ok palette

/-- A filter that opens the paper as well. -/
def loosen : Filter where
  id := "loosen"
  target := "theme"
  priority := 10
  run _ c := .ok (c.setDefault "paper" (some .unset))

def loose : Pipeline := { contributors := [undecided], filters := [loosen], options := ⟨true⟩ }

/-- What the build gives. -/
def looseOutput : Slotted.BuildOutput := loose.slotted.finish loose.slotted.final

theorem schema_loose : looseOutput.schema = ⟨loose.slotted.merged.sections.toList⟩ :=
  congrArg Slotted.Schema.mk (List.mergeSort_singleton _)

end ThemeOptions.Sample

namespace ThemeOptions.Slotted

/-- The filter leaves the paper open, and no finding names it. -/
theorem opened_by_filter_unnamed :
    Sample.loose.slotted.options.diagnostics = true ∧
    ∃ out, Sample.loose.slotted.build.2 = .ok out ∧
      ∃ x ∈ out.schema.entries, x.2.hasUnsetDefault = true ∧
        ∀ f ∈ out.findings, ¬(f.kind = .defaultIncomplete ∧ f.contributor = x.1.origin ∧
          f.target = x.2.id) := by
  refine ⟨rfl, Sample.looseOutput, rfl, ?_⟩
  rw [Sample.schema_loose]
  decide +kernel

/-- The accent, which the theme itself returned open, is named. -/
theorem accent_named :
    Sample.loose.slotted.options.diagnostics = true ∧
    ∃ out, Sample.loose.slotted.build.2 = .ok out ∧
      ∃ s ∈ out.schema.sections, ∃ e, s.option? "accent" = some e ∧ e.hasUnsetDefault = true ∧
        openDefaultFinding s.origin s.head { e with id := "accent" } ∈ out.findings := by
  have hok : Sample.loose.slotted.build.2 = .ok Sample.looseOutput := rfl
  have hnamed := Pipeline.open_options_named rfl hok
  have hfound : ∃ s ∈ Sample.looseOutput.schema.sections, s.id = "colors" ∧
      s.origin = some "theme" ∧ (s.option? "accent").any Entry.hasUnsetDefault = true := by
    rw [Sample.schema_loose]
    decide +kernel
  obtain ⟨s, hs, hid, horigin, hopen⟩ := hfound
  obtain ⟨e, he, hopen⟩ := (Option.any_eq_true _ _).mp hopen
  refine ⟨rfl, Sample.looseOutput, rfl, s, hs, e, he, hopen,
    (hnamed s hs "accent" e he hopen).2.mpr ?_⟩
  rw [hid, horigin]
  decide +kernel

namespace Pipeline

variable {p : Pipeline}

/-! ### One more default of the application -/

theorem contributeAll_supplying (id : String) (v : Value) (st : BuildState)
    (l : List Contributor) : (p.supplying id v).contributeAll st l = p.contributeAll st l := by
  induction l generalizing st with
  | nil => rfl
  | cons c rest ih =>
    have hstep : (p.supplying id v).contribute st c = p.contribute st c := rfl
    rw [contributeAll, contributeAll, hstep]
    rcases p.contribute st c with ⟨st', _ | e⟩
    · exact ih st'
    · rfl

theorem supplyDefaults_supplying (id : String) (v : Value) (r : Registry) :
    (p.supplying id v).supplyDefaults r = ((p.supplyDefaults r).supplyDefault id v).2 :=
  List.foldl_append

theorem final_supplying (id : String) (v : Value) : (p.supplying id v).final = p.final :=
  congrArg Prod.fst (contributeAll_supplying id v p.start p.contributors)

theorem merged_supplying (id : String) (v : Value) :
    (p.supplying id v).merged = (p.merged.supplyDefault id v).2 := by
  show (p.supplying id v).supplyDefaults (p.supplying id v).final.registry = _
  rw [final_supplying, supplyDefaults_supplying]
  rfl

theorem turns_supplying (id : String) (v : Value) : (p.supplying id v).turns = p.turns :=
  congrArg BuildState.turns (final_supplying id v)

/-- The contributors run as before, and the end is that of one more default. -/
theorem build_supplying (id : String) (v : Value) {out : BuildOutput} (hok : p.build.2 = .ok out) :
    (p.supplying id v).build =
      (p.build.1, .ok ((p.supplying id v).finish (p.supplying id v).final)) := by
  have hrun := contributeAll_supplying (p := p) id v p.start p.contributors
  refine Prod.ext ?_ ?_
  · show (p.supplying id v).final.registry.observed.getD [] = p.final.registry.observed.getD []
    rw [final_supplying]
  · refine build_eq_ok_iff.mpr ⟨?_, rfl⟩
    exact (congrArg Prod.snd hrun).trans (build_eq_ok_iff.mp hok).1

/-- The findings of the turns are about the contributions and not about defaults that are open. -/
theorem kind_of_mem_turns {f : Finding} (hf : f ∈ p.turns.flatMap Turn.findings) :
    f.kind ≠ .defaultIncomplete := by
  intro hkind
  obtain ⟨t, -, hf⟩ := List.mem_flatMap.mp hf
  have hmem : f ∈ t.findings.filter (·.kind == .defaultIncomplete) :=
    List.mem_filter.mpr ⟨hf, by rw [hkind]; rfl⟩
  rw [Turn.filter_findings] at hmem
  simp at hmem

theorem findings_supplying (hon : p.options.diagnostics = true) {id : String} {v : Value}
    (hv : v.isUnset = false) {out out' : BuildOutput} (hok : p.build.2 = .ok out)
    (hok' : (p.supplying id v).build.2 = .ok out') :
    out'.findings =
      out.findings.filter fun f => !(f.kind == .defaultIncomplete && f.target == id) := by
  have hearly : (p.turns.flatMap Turn.findings).filter
      (fun f => !(f.kind == .defaultIncomplete && f.target == id)) =
        p.turns.flatMap Turn.findings :=
    List.filter_eq_self.mpr fun f hf => by simp [kind_of_mem_turns hf]
  have hon' : (p.supplying id v).options.diagnostics = true := hon
  rw [findings_of_build hon hok, findings_of_build hon' hok', merged_supplying, turns_supplying,
    List.filter_append, hearly, List.filter_flatMap]
  refine congrArg _ (List.flatMap_congr fun t _ => ?_)
  rw [Registry.openDefaultFindings_supplyDefault hv]
  refine List.filter_congr fun f hf => ?_
  rw [Registry.kind_of_mem_openDefaultFindings hf]
  rfl

/-- **The open defaults found are the ones that are left open.**  There is one finding for every
option that a contributor returned open and whose id leads to an open option in a section of this
contributor in the schema, in the order of the turns; no two are equal if what the contributors
returned stands in its place.  A further default that is supplied last takes away the findings about
its id, and fills what stands open under its id. -/
theorem open_defaults_found (hon : p.options.diagnostics = true) {out : BuildOutput}
    (hok : p.build.2 = .ok out) :
    (out.findings.filter (·.kind == .defaultIncomplete) =
      p.turns.flatMap fun t =>
        (t.returned.deferred.filter (out.schema.leavesOpen t.contributor)).map fun x =>
          openDefaultFinding (some t.contributor) x.1.head x.2) ∧
    (∀ cs fs, p.contributors = (ofLists cs fs).contributors →
      (∀ t ∈ p.turns, t.returned.InPlace) →
      (out.findings.filter (·.kind == .defaultIncomplete)).Nodup) ∧
    ∀ id v, v.isUnset = false → ∃ out', (p.supplying id v).build = (p.build.1, .ok out') ∧
      out'.findings =
        (out.findings.filter fun f => !(f.kind == .defaultIncomplete && f.target == id)) ∧
      out'.schema.sections = out.schema.sections.map (Registry.fill id v) := by
  have hfindings := deferred_of_build hon hok
  refine ⟨hfindings, fun cs fs hlists hplace => ?_, fun id v hv => ?_⟩
  · rw [hfindings]
    refine nodup_openDefaultFindings ?_ hplace
    rw [map_contributor_turns hok, hlists]
    exact nodup_ids_ofLists cs fs
  · have hbuild := build_supplying id v hok
    have hok' := congrArg Prod.snd hbuild
    refine ⟨_, hbuild, findings_supplying hon hv hok hok', ?_⟩
    rw [schema_of_build hok', schema_of_build hok, merged_supplying]
    exact congrArg Schema.sections (Registry.schema_supplyDefault p.merged id v)

end Pipeline

/-- The open accent is found once, and a default for it takes this finding away and leaves the paper
as it is. -/
theorem accent_found_and_filled :
    Sample.loose.slotted.contributors =
      (Pipeline.ofLists [Sample.undecided.slotted] [Sample.loosen.slotted]).contributors ∧
    (∀ t ∈ Sample.loose.slotted.turns, t.returned.InPlace) ∧
    ∃ out out', Sample.loose.slotted.build.2 = .ok out ∧
      (Sample.loose.slotted.supplying "accent" (.text "red")).build.2 = .ok out' ∧
      (out.findings.filter (·.kind == .defaultIncomplete)).Nodup ∧
      out.findings.map Finding.target = ["accent"] ∧ out'.findings = [] ∧
      out'.schema.entries.map (fun x => (x.2.id, x.2.hasUnsetDefault)) =
        [("accent", false), ("paper", true)] := by
  have hlists : Sample.loose.slotted.contributors =
      (Pipeline.ofLists [Sample.undecided.slotted] [Sample.loosen.slotted]).contributors :=
    (List.mergeSort_singleton _).symm
  have hplace := Sample.loose.inPlace_returned_slotted
  have hok : Sample.loose.slotted.build.2 = .ok Sample.looseOutput := rfl
  obtain ⟨-, hnodup, hsupply⟩ := Pipeline.open_defaults_found rfl hok
  obtain ⟨out', hbuild, hfindings, hsections⟩ := hsupply "accent" (.text "red") rfl
  have hschema : out'.schema = ⟨Sample.looseOutput.schema.sections.map
      (Registry.fill "accent" (.text "red"))⟩ :=
    congrArg Schema.mk hsections
  refine ⟨hlists, hplace, Sample.looseOutput, out', rfl, congrArg Prod.snd hbuild,
    hnodup _ _ hlists hplace, by decide +kernel, ?_, ?_⟩
  · rw [hfindings]
    decide +kernel
  · rw [hschema, Sample.schema_loose]
    decide +kernel

/-- An option that the theme returned open, and that has another id, is open to the end and not
found. -/
theorem renamed_open_unnamed :
    Sample.renamed.options.diagnostics = true ∧
    ∃ out, Sample.renamed.build.2 = .ok out ∧
      (∃ t ∈ Sample.renamed.turns, ∃ x ∈ t.returned.deferred, ∃ s ∈ out.schema.sections,
        s.id = x.1.id ∧ s.origin = some t.contributor ∧
          ∃ e ∈ s.entries, e.id = x.2.id ∧ e.hasUnsetDefault = true) ∧
      ∀ f ∈ out.findings, f.kind ≠ .defaultIncomplete := by
  refine ⟨rfl, Sample.renamed.finish Sample.renamed.final, rfl, ?_, ?_⟩
  · have hopen : ∃ t ∈ Sample.renamed.turns, ∃ x ∈ t.returned.deferred,
        ∃ s ∈ Sample.renamed.merged.sections.toList, s.id = x.1.id ∧
          s.origin = some t.contributor ∧
            ∃ e ∈ s.entries, e.id = x.2.id ∧ e.hasUnsetDefault = true := by
      decide +kernel
    obtain ⟨t, ht, x, hx, s, hs, hstill⟩ := hopen
    exact ⟨t, ht, x, hx, s, List.mem_mergeSort.mpr hs, hstill⟩
  · rw [Sample.findings_renamed]
    exact fun f hf => absurd hf List.not_mem_nil

end ThemeOptions.Slotted
