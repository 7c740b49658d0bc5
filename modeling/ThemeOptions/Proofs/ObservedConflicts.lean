import Mathlib.Data.List.Induction
import ThemeOptions.Proofs.AlikeSections
import ThemeOptions.Proofs.History
import ThemeOptions.Proofs.RepeatedOptions

/-!
# What an observer is told

A registration puts every section of a contribution into one of three classes, by what stands under
its id when its turn comes (`Registry.encounters`): it is new, it is in conflict, or it is passed
over because it says the same.  The report, the observer and the registry after the registration are
all told by these encounters (`Registry.report_register`, `Registry.observed_register`,
`Registry.toList_register_encounters`).  If the sections have distinct ids, what stands under an id
is what was registered before the call, and the lists say of every id in which class it is.

In a build the findings about conflicts are the conflicts of the registrations, one by one.  The
observer hears of these, and in between of the ones that contributors and filters cause on copies of
the registry; `conflicts_observed` puts all this together.
-/

open scoped List

namespace ThemeOptions

/-- What the checks say of a conflict. -/
def Conflict.finding (k : Conflict) : Finding :=
  ⟨.mergeConflict, k.rejected, k.sectionId, k.message⟩

end ThemeOptions

namespace ThemeOptions.Slotted

/-! ### Encounters -/

/-- A section that is about to be registered, with what stands under its id. -/
structure Encounter where
  brought : Section
  standing : Option Section

/-- The conflict of a section with another one that stands under its id. -/
def Encounter.conflict? (origin : Option String) (x : Encounter) : Option Conflict :=
  x.standing.bind fun old =>
    if old.sameContent x.brought then none else some ⟨x.brought.id, old.origin, origin⟩

/-- A conflict names the section that is kept out, who keeps it out, and who brought it. -/
theorem Encounter.conflict?_eq_some_iff {origin : Option String} {x : Encounter} {k : Conflict} :
    x.conflict? origin = some k ↔ ∃ old, x.standing = some old ∧
      old.sameContent x.brought = false ∧ k = ⟨x.brought.id, old.origin, origin⟩ := by
  unfold conflict?
  rw [Option.bind_eq_some_iff]
  refine exists_congr fun old => and_congr_right fun _ => ?_
  by_cases hsame : old.sameContent x.brought = true <;> simp [hsame, eq_comm]

namespace Registry

/-- What the sections of a list find under their ids, each after the ones before it have been
registered. -/
def encounters (r : Registry) (origin : Option String) (l : List Section) : List Encounter :=
  (withBefore l).map fun (before, s) =>
    ⟨s, (r.section? s.id).or ((before.find? (·.id == s.id)).map (Section.withOrigin origin))⟩

section

variable (r : Registry) (origin : Option String)

theorem encounters_concat (l : List Section) (s : Section) :
    r.encounters origin (l ++ [s]) = r.encounters origin l ++
      [⟨s, (l.foldl (fun r s => r.enroll origin s) r).section? s.id⟩] := by
  unfold encounters
  rw [withBefore_concat, List.map_append, section?_foldl_enroll]
  rfl

theorem map_brought_encounters (l : List Section) :
    (r.encounters origin l).map Encounter.brought = l := by
  induction l using List.reverseRecOn with
  | nil => rfl
  | append_singleton l s ih => rw [encounters_concat, List.map_append, ih, List.map_singleton]

theorem conflict?_admission (s : Section) :
    (r.admission origin s).conflict? = Encounter.conflict? origin ⟨s, r.section? s.id⟩ := by
  unfold admission Encounter.conflict?
  cases r.section? s.id with
  | none => rfl
  | some old => by_cases h : old.sameContent s = true <;> simp [h, Admission.conflict?]

theorem observed_enroll (s : Section) :
    (r.enroll origin s).observed =
      r.observed.map (· ++ (r.admission origin s).conflict?.toList) := by
  unfold enroll
  cases r.admission origin s <;> simp [Admission.conflict?, tell]

theorem toList_enroll (s : Section) :
    (r.enroll origin s).sections.toList =
      r.sections.toList ++ if (r.section? s.id).isNone then [s.withOrigin origin] else [] := by
  have hfree : (r.section? s.id).isNone = true ↔ (s.withOrigin origin).id ∉ r.sections.keys := by
    rw [Option.isNone_iff_eq_none, section?_eq_none_iff]
    rfl
  rw [sections_enroll, Keyed.toList_insert]
  by_cases h : (s.withOrigin origin).id ∈ r.sections.keys
  · rw [if_pos h, if_neg (fun hnone => hfree.mp hnone h), List.append_nil]
  · rw [if_neg h, if_pos (hfree.mpr h)]

theorem note_admission (report : Report) (s : Section) :
    report.note s.head (r.admission origin s) =
      { added := report.added ++ if (r.section? s.id).isNone then [s.id] else []
        conflicts := report.conflicts ++ (r.admission origin s).conflict?.toList } := by
  unfold admission
  cases r.section? s.id with
  | none => simp [Report.note, Admission.conflict?, Section.head]
  | some old =>
    by_cases h : old.sameContent s = true <;> simp [h, Report.note, Admission.conflict?]

/-! ### A whole registration -/

theorem filterMap_concat_toList {α β : Type} (f : α → Option β) (l : List α) (a : α) :
    (l ++ [a]).filterMap f = l.filterMap f ++ (f a).toList := by
  rw [List.filterMap_append]
  cases h : f a <;> simp [h]

/-- The report says which sections are new, and which are in conflict. -/
theorem report_register (c : Contribution) :
    (r.register origin c).1 =
      { added := ((r.encounters origin c.items).filter (·.standing.isNone)).map (·.brought.id)
        conflicts := (r.encounters origin c.items).filterMap (Encounter.conflict? origin) } := by
  unfold register
  induction c.items using List.reverseRecOn with
  | nil => rfl
  | append_singleton l s ih =>
    have hnew : ((r.encounters origin (l ++ [s])).filter (·.standing.isNone)).map (·.brought.id) =
        ((r.encounters origin l).filter (·.standing.isNone)).map (·.brought.id) ++
          if ((l.foldl (fun r s => r.enroll origin s) r).section? s.id).isNone then [s.id]
          else [] := by
      rw [encounters_concat, List.filter_append, List.map_append]
      cases (l.foldl (fun r s => r.enroll origin s) r).section? s.id <;> rfl
    have hconflict : (r.encounters origin (l ++ [s])).filterMap (Encounter.conflict? origin) =
        (r.encounters origin l).filterMap (Encounter.conflict? origin) ++
          ((l.foldl (fun r s => r.enroll origin s) r).admission origin s).conflict?.toList := by
      rw [encounters_concat, filterMap_concat_toList, conflict?_admission]
    rw [List.foldl_append, List.foldl_cons, List.foldl_nil, hnew, hconflict]
    simp only [ih, foldl_register_snd]
    exact note_admission _ origin _ s

/-- The observer is told of the conflicts that are reported. -/
theorem observed_register (c : Contribution) :
    (r.register origin c).2.observed =
      r.observed.map (· ++ (r.register origin c).1.conflicts) := by
  rw [register_snd, report_register]
  induction c.items using List.reverseRecOn with
  | nil => simp [encounters]
  | append_singleton l s ih =>
    rw [List.foldl_append, List.foldl_cons, List.foldl_nil, observed_enroll, ih, Option.map_map,
      encounters_concat, filterMap_concat_toList, conflict?_admission]
    exact congrArg (Option.map · r.observed) (funext fun told => List.append_assoc ..)

/-- The new sections come behind those that are there. -/
theorem toList_register_encounters (c : Contribution) :
    (r.register origin c).2.sections.toList = r.sections.toList ++
      ((r.encounters origin c.items).filter (·.standing.isNone)).map
        (·.brought.withOrigin origin) := by
  rw [register_snd]
  induction c.items using List.reverseRecOn with
  | nil => exact (List.append_nil _).symm
  | append_singleton l s ih =>
    rw [List.foldl_append, List.foldl_cons, List.foldl_nil, toList_enroll, ih, encounters_concat,
      List.filter_append, List.map_append, List.append_assoc]
    cases (l.foldl (fun r s => r.enroll origin s) r).section? s.id <;> rfl

/-- Conflicts of which the observer is told in between change no report. -/
theorem report_tell (conflicts : List Conflict) (c : Contribution) :
    ((r.tell conflicts).register origin c).1 = (r.register origin c).1 := by
  rw [report_register, report_register]
  rfl

/-- The lists of a report follow the contribution. -/
theorem sublists_register (c : Contribution) :
    (r.register origin c).1.added <+ c.items.map Section.id ∧
      (r.register origin c).1.conflicts.map Conflict.sectionId <+ c.items.map Section.id := by
  have hids : c.items.map Section.id = (r.encounters origin c.items).map (·.brought.id) := by
    conv_lhs => rw [← r.map_brought_encounters origin c.items, List.map_map]
    rfl
  rw [report_register, hids]
  refine ⟨List.filter_sublist.map _, ?_⟩
  have hid (x : Encounter) (k : Conflict) (hk : x.conflict? origin = some k) :
      k.sectionId = x.brought.id := by
    obtain ⟨old, -, -, rfl⟩ := Encounter.conflict?_eq_some_iff.mp hk
    rfl
  rw [map_filterMap_eq_map_filter hid]
  exact List.filter_sublist.map _

end

/-! ### Sections with distinct ids -/

section

variable {r : Registry} {origin : Option String} {c : Contribution} {s : Section}

/-- Sections with distinct ids find what was registered before all of them. -/
theorem encounters_of_nodup {l : List Section} (h : (l.map Section.id).Nodup) :
    r.encounters origin l = l.map fun s => ⟨s, r.section? s.id⟩ := by
  induction l using List.reverseRecOn with
  | nil => rfl
  | append_singleton l s ih =>
    rw [List.map_append, List.nodup_append] at h
    have hbefore : l.find? (·.id == s.id) = none :=
      List.find?_eq_none.mpr fun t ht hid =>
        h.2.2 _ (List.mem_map_of_mem ht) _ List.mem_cons_self (beq_iff_eq.mp hid)
    rw [encounters_concat, ih h.1, section?_foldl_enroll, hbefore, Option.map_none, Option.or_none,
      List.map_append, List.map_singleton]

theorem encounters_of_inPlace (hc : c.sections.InPlace Section.id) :
    r.encounters origin c.items = c.items.map fun s => ⟨s, r.section? s.id⟩ :=
  encounters_of_nodup (hc.map_items ▸ c.sections.nodup_keys)

theorem mem_added_iff (hc : c.sections.InPlace Section.id) (hs : s ∈ c.items) :
    s.id ∈ (r.register origin c).1.added ↔ r.section? s.id = none := by
  rw [report_register, encounters_of_inPlace hc, List.filter_map, List.map_map, List.mem_map]
  constructor
  · rintro ⟨t, ht, hid⟩
    have hnone : r.section? t.id = none := by simpa using (List.mem_filter.mp ht).2
    exact hid ▸ hnone
  · exact fun hnone => ⟨s, List.mem_filter.mpr ⟨hs, by simp [hnone]⟩, rfl⟩

/-- The conflict about one of the sections. -/
theorem mem_conflicts_about_iff (hc : c.sections.InPlace Section.id) (hs : s ∈ c.items)
    {k : Conflict} :
    k ∈ (r.register origin c).1.conflicts ∧ k.sectionId = s.id ↔
      ∃ old, r.section? s.id = some old ∧ old.sameContent s = false ∧
        k = ⟨s.id, old.origin, origin⟩ := by
  rw [report_register, encounters_of_inPlace hc, List.filterMap_map, List.mem_filterMap]
  constructor
  · rintro ⟨⟨t, ht, hk⟩, hid⟩
    obtain ⟨old, hold, hdiffers, rfl⟩ := Encounter.conflict?_eq_some_iff.mp hk
    -- the ids of the sections are distinct
    have hnodup : (c.items.map Section.id).Nodup := hc.map_items ▸ c.sections.nodup_keys
    obtain rfl : t = s := List.inj_on_of_nodup_map hnodup ht hs hid
    exact ⟨old, hold, hdiffers, rfl⟩
  · rintro ⟨old, hold, hdiffers, rfl⟩
    exact ⟨⟨s, hs, Encounter.conflict?_eq_some_iff.mpr ⟨old, hold, hdiffers, rfl⟩⟩, rfl⟩

theorem unreported_iff (hc : c.sections.InPlace Section.id) (hs : s ∈ c.items) :
    s.id ∉ (r.register origin c).1.added ∧
        (∀ k ∈ (r.register origin c).1.conflicts, k.sectionId ≠ s.id) ↔
      ∃ old, r.section? s.id = some old ∧ old.sameContent s = true := by
  rw [mem_added_iff hc hs]
  constructor
  · rintro ⟨hadded, hconflicts⟩
    obtain ⟨old, hold⟩ := Option.ne_none_iff_exists'.mp hadded
    refine ⟨old, hold, Bool.not_eq_false _ ▸ fun hdiffers => ?_⟩
    have habout : (⟨s.id, old.origin, origin⟩ : Conflict) ∈ (r.register origin c).1.conflicts ∧ _ :=
      (mem_conflicts_about_iff hc hs).mpr ⟨old, hold, hdiffers, rfl⟩
    exact hconflicts _ habout.1 habout.2
  · rintro ⟨old, hold, hsame⟩
    refine ⟨by simp [hold], fun k hk hid => ?_⟩
    obtain ⟨old', hold', hdiffers, -⟩ := (mem_conflicts_about_iff hc hs).mp ⟨hk, hid⟩
    obtain rfl : old = old' := Option.some.inj (hold.symm.trans hold')
    exact absurd (hsame.symm.trans hdiffers) (by simp)

end

end Registry

/-! ### The conflicts of a build -/

theorem Turn.conflictFindings_report (t : Turn) :
    ThemeOptions.Pipeline.conflictFindings (some t.contributor) t.report =
      t.report.conflicts.map Conflict.finding := by
  refine List.map_congr_left fun k hk => ?_
  rw [report, Registry.report_register, List.mem_filterMap] at hk
  obtain ⟨x, -, hx⟩ := hk
  obtain ⟨old, -, -, rfl⟩ := Encounter.conflict?_eq_some_iff.mp hx
  rfl

namespace Pipeline

variable {p : Pipeline}

theorem conflictFindings_build (hon : p.options.diagnostics = true) {out : BuildOutput}
    (hok : p.build.2 = .ok out) :
    out.findings.filter (·.kind == .mergeConflict) =
      (p.turns.flatMap (·.report.conflicts)).map Conflict.finding := by
  rw [conflictFindings_of_build hon hok, List.map_flatMap]
  exact List.flatMap_congr fun t _ => t.conflictFindings_report

/-- In every turn the observer hears of the conflicts on copies of the registry, and then of those
of the registration. -/
theorem observed_build (hwatched : p.watched = true) {out : BuildOutput}
    (hok : p.build.2 = .ok out) :
    p.build.1 = p.turns.flatMap fun t => t.caused ++ t.report.conflicts := by
  have hfinal : p.final.registry.observed =
      some (p.final.turns.flatMap fun t => t.caused ++ t.report.conflicts) := by
    refine build_induct (P := fun st => st.registry.observed =
      some (st.turns.flatMap fun t => t.caused ++ t.report.conflicts)) ?_ ?_ hok
    · intro st t hseen h
      show ((t.seen.tell t.caused).register (some t.contributor) t.filtered).2.observed = _
      rw [Registry.observed_register, Registry.report_tell, Registry.tell, hseen, h,
        BuildState.next, List.flatMap_append, List.flatMap_singleton]
      simp only [Option.map_some, Turn.report, hseen, List.append_assoc]
    · rw [start, if_pos hwatched]
      rfl
  show p.final.registry.observed.getD [] = _
  rw [hfinal]
  rfl

end Pipeline

/-- **Every section is in one class, and the observer hears of every conflict.**  In a registry that
some calls have led to, a section of a contribution is added if nothing stands under its id by now,
is in conflict if what stands there says something else, and is passed over if it says the same; the
sections before it in the contribution count.  Both lists follow the contribution, the observer is
told of the conflicts as they are listed, and only the added sections change what is registered.  If
the sections stand under their own ids, the lists tell the class of each by its id.

A build that runs the checks finds the conflicts of its registrations, in order.  Its observer hears
of the same ones, and in each turn before them of those on copies of the registry. -/
theorem conflicts_observed :
    (∀ (calls : List Call) (told : List Conflict) (origin : Option String) (c : Contribution),
      let r : Registry := { Registry.run {} calls with observed := some told }
      let met := r.encounters origin c.items
      let report := (r.register origin c).1
      let r' := (r.register origin c).2
      (∀ id, r.section? id =
        ((arrivals calls).find? (·.brought.id == id)).map Arrival.settled) ∧
      report.added = (met.filter (·.standing.isNone)).map (·.brought.id) ∧
      report.conflicts = met.filterMap (Encounter.conflict? origin) ∧
      report.added <+ c.items.map Section.id ∧
      report.conflicts.map Conflict.sectionId <+ c.items.map Section.id ∧
      r'.observed = some (told ++ report.conflicts) ∧
      r'.sections.toList = r.sections.toList ++
        (met.filter (·.standing.isNone)).map (·.brought.withOrigin origin) ∧
      (c.sections.InPlace Section.id → ∀ s ∈ c.items,
        (s.id ∈ report.added ↔ r.section? s.id = none) ∧
        (∀ k, k ∈ report.conflicts ∧ k.sectionId = s.id ↔
          ∃ old, r.section? s.id = some old ∧ old.sameContent s = false ∧
            k = ⟨s.id, old.origin, origin⟩) ∧
        ((s.id ∉ report.added ∧ ∀ k ∈ report.conflicts, k.sectionId ≠ s.id) ↔
          ∃ old, r.section? s.id = some old ∧ old.sameContent s = true))) ∧
    ∀ p : Pipeline, p.options.diagnostics = true → p.watched = true →
      ∀ out, p.build.2 = .ok out →
        out.findings.filter (·.kind == .mergeConflict) =
          (p.turns.flatMap (·.report.conflicts)).map Conflict.finding ∧
        p.build.1 = (p.turns.flatMap fun t => t.caused ++ t.report.conflicts) ∧
        ((∀ t ∈ p.turns, t.caused = []) →
          out.findings.filter (·.kind == .mergeConflict) = p.build.1.map Conflict.finding) := by
  refine ⟨fun calls told origin c => ?_, fun p hon hwatched out hok => ?_⟩
  · intro r met report r'
    have hcalls : ∀ id, r.section? id =
        ((arrivals calls).find? (·.brought.id == id)).map Arrival.settled := by
      intro id
      show (Registry.run {} calls).section? id = _
      rw [Registry.section?_run]
      rfl
    have hreport := r.report_register origin c
    obtain ⟨hadded, hconflicts⟩ := r.sublists_register origin c
    exact ⟨hcalls, congrArg Report.added hreport, congrArg Report.conflicts hreport, hadded,
      hconflicts, r.observed_register origin c, r.toList_register_encounters origin c,
      fun hc s hs => ⟨Registry.mem_added_iff hc hs,
        fun k => Registry.mem_conflicts_about_iff hc hs, Registry.unreported_iff hc hs⟩⟩
  · have hfindings := Pipeline.conflictFindings_build hon hok
    have hobserved := Pipeline.observed_build hwatched hok
    refine ⟨hfindings, hobserved, fun hnone => ?_⟩
    have hheard : (p.turns.flatMap fun t => t.caused ++ t.report.conflicts) =
        p.turns.flatMap (·.report.conflicts) :=
      List.flatMap_congr fun t ht => by rw [hnone t ht, List.nil_append]
    rw [hfindings, hobserved, hheard]

end ThemeOptions.Slotted

/-! ### Colors that are filled in before they come again -/

namespace ThemeOptions.Sample

/-- Colors whose accent is left open. -/
def openColors : Section :=
  { id := "colors", options := Keyed.ofList [{ id := "accent", default := some .unset }] }

def noMarks : Section := { id := "marks" }

/-- The same colors and marks again, and extras behind them. -/
def widened : Contribution := ⟨Keyed.ofList [openColors, noMarks, { id := "extras" }]⟩

/-- A pipeline whose plugin repeats a section of the theme, with an observer. -/
def watchedCrowded : Pipeline := { crowded with watched := true }

end ThemeOptions.Sample

namespace ThemeOptions.Slotted

namespace Sample

open ThemeOptions.Sample

/-- The core brings colors and marks, and the accent is filled in. -/
def filled : List Call :=
  [.register (some "core") (ThemeOptions.Contribution.slotted ⟨Keyed.ofList [openColors, noMarks]⟩),
    .supply "accent" (.text "red")]

/-- What the calls lead to, with an observer who has heard of nothing yet. -/
def filledColors : Registry := { Registry.run {} filled with observed := some [] }

theorem report_widened : (filledColors.register (some "child") widened.slotted).1 =
    ⟨["extras"], [⟨"colors", some "core", some "child"⟩]⟩ := by
  decide +kernel

theorem observed_watchedCrowded :
    watchedCrowded.slotted.build.1 = [⟨"colors", some "theme", some "plugin"⟩] := by
  decide +kernel

end Sample

/-- The colors are in conflict with what they have become, and the marks are passed over. -/
theorem conflicts_observed_filled :
    let report :=
      (Sample.filledColors.register (some "child") ThemeOptions.Sample.widened.slotted).1
    report = ⟨["extras"], [⟨"colors", some "core", some "child"⟩]⟩ ∧
    (Sample.filledColors.register (some "child")
      ThemeOptions.Sample.widened.slotted).2.observed = some report.conflicts ∧
    (∃ old, Sample.filledColors.section? "marks" = some old ∧
      old.sameContent ThemeOptions.Sample.noMarks.slotted = true) ∧
    (∀ t ∈ ThemeOptions.Sample.watchedCrowded.slotted.turns, t.caused = []) ∧
    ∃ out, ThemeOptions.Sample.watchedCrowded.slotted.build.2 = .ok out ∧
      out.findings.filter (·.kind == .mergeConflict) =
        [Conflict.finding ⟨"colors", some "theme", some "plugin"⟩] := by
  intro report
  have hreport : report = ⟨["extras"], [⟨"colors", some "core", some "child"⟩]⟩ :=
    Sample.report_widened
  obtain ⟨hcalls, hbuild⟩ := conflicts_observed
  obtain ⟨-, -, -, -, -, hobserved, -, hclasses⟩ :=
    hcalls Sample.filled [] (some "child") ThemeOptions.Sample.widened.slotted
  have hmarks : ThemeOptions.Sample.noMarks.slotted ∈ ThemeOptions.Sample.widened.slotted.items :=
    List.mem_of_getElem? (i := 1) rfl
  obtain ⟨-, -, halike⟩ :=
    hclasses ThemeOptions.Sample.widened.inPlace_slotted.sections _ hmarks
  have hcaused : ∀ t ∈ ThemeOptions.Sample.watchedCrowded.slotted.turns, t.caused = [] := by
    decide +kernel
  obtain ⟨-, -, hfindings⟩ := hbuild ThemeOptions.Sample.watchedCrowded.slotted rfl rfl _ rfl
  refine ⟨hreport, hobserved, halike.mp ?_, hcaused, _, rfl, ?_⟩
  · show ThemeOptions.Sample.noMarks.id ∉ report.added ∧
      ∀ k ∈ report.conflicts, k.sectionId ≠ ThemeOptions.Sample.noMarks.id
    rw [hreport]
    decide
  · rw [hfindings hcaused, Sample.observed_watchedCrowded]
    rfl

/-! ### What the lists and the observer do not tell -/

namespace Sample

/-- Colors with the links before the page, and an observer. -/
def linksFirst : Registry :=
  { ThemeOptions.Sample.linksFirst.slotted with observed := some [] }

/-- Two sections with one id. -/
def doubled : Contribution :=
  ((Contribution.add {} { id := "colors" }).add { id := "marks" }).revise "marks" fun s =>
    { s with id := "colors", title := some "Marks" }

/-- A plugin that registers colors on a copy of the registry, to see what happens, and brings
nothing. -/
def prober : Contributor where
  id := "plugin"
  priority := 20
  provenance := .pluginExtension
  run context :=
    let probe : Contribution := Contribution.add {} { id := "colors" }
    ((context.registry.register (some "probe") probe).1.conflicts, .ok {})

def probed : Pipeline :=
  { contributors := [renamer, prober], filters := [], options := ⟨true⟩, watched := true }

end Sample

/-- Colors with their options in another order are in neither list.  Of two sections with one id the
first is added and the second is in conflict.  And the observer hears of a conflict on a copy of the
registry about which nothing is found. -/
theorem reordered_passed_over_and_probe_heard :
    ((Sample.linksFirst.register (some "child") ThemeOptions.Sample.pageFirst.slotted).1 = {} ∧
      Sample.linksFirst.sections.toList.map (·.entries.map Entry.id) = [["links", "page"]] ∧
      ThemeOptions.Sample.pageFirst.slotted.items.map (·.entries.map Entry.id) =
        [["page", "links"]]) ∧
    (Registry.watched.register (some "child") Sample.doubled).1 =
      ⟨["colors"], [⟨"colors", some "child", some "child"⟩]⟩ ∧
    ∃ out, Sample.probed.build = ([⟨"colors", some "theme", some "probe"⟩], .ok out) ∧
      ∀ f ∈ out.findings, f.kind ≠ .mergeConflict := by
  refine ⟨by decide +kernel, by decide +kernel,
    Sample.probed.finish Sample.probed.final, ?_, by decide +kernel⟩
  have hok : Sample.probed.build.2 = .ok (Sample.probed.finish Sample.probed.final) := rfl
  refine Prod.ext ?_ hok
  show Sample.probed.final.registry.observed.getD [] = _
  decide +kernel

end ThemeOptions.Slotted
