import Mathlib.Data.List.Induction
import Mathlib.Data.List.Perm.Basic
import ThemeOptions.Proofs.InPlace
import ThemeOptions.Proofs.LateContributor
import ThemeOptions.Proofs.Slotted.Turns

/-!
# Options that repeat an id

The check for duplicates looks at one contribution at a time, before it is registered.  Over a whole
build it finds what a reader of the finished registry would find: every option with an id that an
option before it has (`repeats`).  One registration adds what its check has found
(`Registry.repeatFindings_register`), and `Pipeline.duplicateFindings_build` carries this through a
build.  A build without such a finding has distinct ids, so an option is the same whichever way it
is looked up, and each one is compiled with its own default (`Pipeline.compile_defaults_alone`).

All this is so if what comes through the filters stands under its own ids.  The check looks ids up
among those under which options stand, so an option that has got another id escapes it
(`renamed_unreported`).
-/

open scoped List

namespace ThemeOptions

/-! ### Repeated keys -/

section

variable {α β : Type} (key : α → String)

/-- The items of a list whose key an item before them has. -/
def repeats (l : List α) : List α :=
  ((withBefore l).filter fun x => x.1.any (key · == key x.2)).map Prod.snd

theorem repeats_concat (l : List α) (a : α) :
    repeats key (l ++ [a]) = repeats key l ++ if key a ∈ l.map key then [a] else [] := by
  have hany : l.any (key · == key a) = decide (key a ∈ l.map key) := by
    rw [Bool.eq_iff_iff, List.any_eq_true, decide_eq_true_eq, List.mem_map]
    simp only [beq_iff_eq]
  unfold repeats
  rw [withBefore_concat, List.filter_append, List.map_append]
  refine congrArg (_ ++ ·) ?_
  by_cases h : key a ∈ l.map key <;> simp [hany, h]

theorem repeats_map (f : β → α) (l : List β) :
    repeats key (l.map f) = (repeats (fun b => key (f b)) l).map f := by
  induction l using List.reverseRecOn with
  | nil => rfl
  | append_singleton l b ih =>
    rw [List.map_append, List.map_singleton, repeats_concat, ih, repeats_concat, List.map_append,
      List.map_map]
    refine congrArg (_ ++ ·) ?_
    show (if key (f b) ∈ l.map (key ∘ f) then [f b] else []) =
      (if key (f b) ∈ l.map (key ∘ f) then [b] else []).map f
    split <;> rfl

theorem repeats_eq_nil_iff (l : List α) : repeats key l = [] ↔ (l.map key).Nodup := by
  induction l using List.reverseRecOn with
  | nil => simp [repeats]
  | append_singleton l a ih =>
    rw [repeats_concat, List.append_eq_nil_iff, ih, List.map_append, List.nodup_append]
    by_cases h : key a ∈ l.map key
    · simp only [if_pos h, List.cons_ne_nil, and_false, false_iff]
      exact fun hdistinct => hdistinct.2.2 _ h _ (by simp) rfl
    · simp only [if_neg h, and_true, List.map_singleton]
      refine ⟨fun hl => ⟨hl, List.nodup_singleton _, fun k hk b hb e => ?_⟩, fun hl => hl.1⟩
      exact h (List.mem_singleton.mp hb ▸ e ▸ hk)

/-- Every item repeats a key or is the first one with its key. -/
theorem length_repeats_add (l : List α) :
    (repeats key l).length + (l.map key).eraseDups.length = l.length := by
  induction l using List.reverseRecOn with
  | nil => rfl
  | append_singleton l a ih =>
    rw [repeats_concat, List.map_append, List.eraseDups_append, List.length_append,
      List.length_append, List.length_append, ← ih]
    by_cases h : key a ∈ l.map key
    · have hnone : (List.map key [a]).removeAll (l.map key) = [] := by
        simp only [List.map_singleton, List.removeAll, List.filter_cons, List.elem_eq_mem, h,
          decide_true, Bool.not_true, Bool.false_eq_true, if_false, List.filter_nil]
      rw [if_pos h, hnone]
      simp only [List.length_singleton, List.eraseDups_nil, List.length_nil]
      omega
    · have hone : (List.map key [a]).removeAll (l.map key) = [key a] := by
        simp only [List.map_singleton, List.removeAll, List.filter_cons, List.elem_eq_mem, h,
          decide_false, Bool.not_false, if_true, List.filter_nil]
      rw [if_neg h, hone, eraseDups_of_nodup (List.nodup_singleton _)]
      simp only [List.length_singleton, List.length_nil]
      omega

end

theorem length_eraseDups_of_perm {l l' : List String} (h : l ~ l') :
    l.eraseDups.length = l'.eraseDups.length := by
  refine List.Perm.length_eq ?_
  rw [List.perm_ext_iff_of_nodup (nodup_eraseDups l) (nodup_eraseDups l')]
  intro a
  rw [List.mem_eraseDups, List.mem_eraseDups, h.mem_iff]

end ThemeOptions

namespace ThemeOptions.Slotted

/-! ### The options of a registry -/

namespace Registry

/-- Every option with its section, in the order of registration. -/
def entries (r : Registry) : List (Section × Entry) := Schema.entries ⟨r.sections.toList⟩

/-- Every option of every section stands under its own id. -/
def InPlace (r : Registry) : Prop := ∀ s ∈ r.sections.toList, s.InPlace

theorem InPlace.register {r : Registry} (h : r.InPlace) (origin : Option String)
    {c : Contribution} (hc : c.InPlace) : (r.register origin c).2.InPlace := by
  intro s hs
  rcases mem_register hs with hs | ⟨s₀, hs₀, rfl⟩
  · exact h s hs
  · exact hc.options s₀ hs₀

theorem InPlace.supplyDefault {r : Registry} (h : r.InPlace) (id : String) (v : Value) :
    (r.supplyDefault id v).2.InPlace := by
  intro s hs
  obtain ⟨s₀, hs₀, rfl⟩ := List.mem_map.mp hs
  exact Slots.InPlace.revise (h s₀ hs₀) (id_fillEntry v)

/-- Where options stand under their own ids they are looked up by these. -/
theorem InPlace.entry?_eq {r : Registry} (h : r.InPlace) (id : String) :
    r.entry? id = (r.entries.find? (·.2.id == id)).map Prod.snd := by
  have hoption : ∀ s ∈ r.sections.toList, s.option? id = s.entries.find? (·.id == id) :=
    fun s hs => Slots.InPlace.item?_eq (h s hs) id
  unfold entry? entries Schema.entries
  generalize r.sections.toList = l at hoption
  induction l with
  | nil => rfl
  | cons s l ih =>
    rw [List.findSome?_cons, List.flatMap_cons, List.find?_append, Option.map_or,
      hoption s List.mem_cons_self, ← ih fun t ht => hoption t (List.mem_cons_of_mem s ht),
      List.find?_map, Option.map_map]
    show _ = (Option.map (fun e => e) (s.entries.find? (·.id == id))).or _
    rw [Option.map_id']
    cases s.entries.find? (·.id == id) <;> rfl

theorem InPlace.entry?_isSome_iff {r : Registry} (h : r.InPlace) {id : String} :
    (r.entry? id).isSome = true ↔ id ∈ r.entries.map (·.2.id) := by
  rw [h.entry?_eq, Option.isSome_map, List.find?_isSome, List.mem_map]
  simp only [beq_iff_eq]

/-- The sections of a contribution with distinct ids are registered unless their ids are taken. -/
theorem toList_register (r : Registry) (origin : Option String) {c : Contribution}
    (hc : c.InPlace) :
    (r.register origin c).2.sections.toList =
      r.sections.toList ++ (r.freeSections c).map (Section.withOrigin origin) := by
  have hnodup : ((c.items.map (Section.withOrigin origin)).map Section.id).Nodup := by
    rw [List.map_map]
    exact hc.sections.map_items ▸ c.sections.nodup_keys
  rw [sections_register, ← Keyed.foldl_insert_eq_ofList, Keyed.toList_foldl_insert,
    Keyed.toList_ofList_of_nodup hnodup, List.filter_map]
  rfl

theorem entries_register (r : Registry) (origin : Option String) {c : Contribution}
    (hc : c.InPlace) :
    (r.register origin c).2.entries = r.entries ++
      (Schema.entries ⟨r.freeSections c⟩).map fun x => (x.1.withOrigin origin, x.2) := by
  unfold entries Schema.entries
  rw [r.toList_register origin hc, List.flatMap_append, List.flatMap_map, List.map_flatMap]
  refine congrArg (_ ++ ·) (List.flatMap_congr fun s _ => ?_)
  rw [List.map_map]
  rfl

/-- Sorting changes the order of the options only. -/
theorem entries_schema_perm (r : Registry) : r.schema.entries ~ r.entries :=
  (List.mergeSort_perm _ _).flatMap_right _

/-! ### What the check for duplicates finds -/

/-- The findings about the options of a registry that repeat an id. -/
def repeatFindings (r : Registry) : List Finding :=
  (repeats (·.2.id) r.entries).map fun x => duplicateFinding x.1.origin x.1.head x.2

/-- The check, which counts an id as taken if it is registered or one of the options passed so far
has it, finds what repeats an id behind the registered options. -/
theorem repeats_append_taken {registered : String → Bool}
    {g : Section × Entry → Section × Entry} (hg : ∀ x, (g x).2.id = x.2.id)
    (m l : List (Section × Entry)) (seen : List String)
    (h : ∀ id, (registered id || seen.contains id) = true ↔ id ∈ l.map (·.2.id)) :
    repeats (·.2.id) (l ++ m.map g) = repeats (·.2.id) l ++ (taken registered seen m).map g := by
  induction m generalizing l seen with
  | nil => rw [taken, List.map_nil, List.append_nil, List.append_nil]
  | cons x m ih =>
    have hshift : l ++ (x :: m).map g = l ++ [g x] ++ m.map g := by
      rw [List.map_cons, List.append_assoc, List.singleton_append]
    have hids : (l ++ [g x]).map (·.2.id) = l.map (·.2.id) ++ [x.2.id] := by
      rw [List.map_append, List.map_singleton, hg]
    rw [hshift]
    by_cases htaken : (registered x.2.id || seen.contains x.2.id) = true
    · have hmem : x.2.id ∈ l.map (·.2.id) := (h _).mp htaken
      rw [ih (l ++ [g x]) seen fun id => ?_, repeats_concat, hg, if_pos hmem, taken,
        if_pos htaken, List.map_cons, List.append_assoc, List.singleton_append]
      rw [h, hids, List.mem_append, List.mem_singleton]
      exact ⟨Or.inl, fun hid => hid.elim (fun hid => hid) fun hid => hid ▸ hmem⟩
    · have hmem : x.2.id ∉ l.map (·.2.id) := fun hm => htaken ((h _).mpr hm)
      rw [ih (l ++ [g x]) (x.2.id :: seen) fun id => ?_, repeats_concat, hg, if_neg hmem, taken,
        if_neg htaken, List.append_nil]
      rw [hids, List.mem_append, ← h, List.mem_singleton, List.contains_cons, Bool.or_eq_true,
        Bool.or_eq_true, Bool.or_eq_true, beq_iff_eq, or_left_comm, or_comm]

/-- A registration adds to the repeated options what the check has found before it. -/
theorem InPlace.repeatFindings_register {r : Registry} (h : r.InPlace) (origin : Option String)
    {c : Contribution} (hc : c.InPlace) :
    (r.register origin c).2.repeatFindings =
      r.repeatFindings ++ r.duplicateFindings origin c := by
  have hids : ∀ id, ((r.entry? id).isSome || ([] : List String).contains id) = true ↔
      id ∈ r.entries.map (·.2.id) := fun id => by
    rw [List.contains_nil, Bool.or_false, h.entry?_isSome_iff]
  have hrepeats := repeats_append_taken (g := fun x => (x.1.withOrigin origin, x.2))
    (fun _ => rfl) (Schema.entries ⟨r.freeSections c⟩) r.entries [] hids
  unfold repeatFindings
  rw [r.entries_register origin hc, hrepeats, List.map_append, List.map_map]
  rfl

/-- What a finding about a duplicate tells of an option. -/
def labels (r : Registry) : List (Option String × String × String) :=
  r.entries.map fun x => (x.1.origin, x.1.id, x.2.id)

theorem repeatFindings_eq_labels (r : Registry) :
    r.repeatFindings = (repeats (·.2.2) r.labels).map fun x =>
      duplicateFinding x.1 { id := x.2.1 } { id := x.2.2 } := by
  unfold repeatFindings labels
  rw [repeats_map, List.map_map]
  rfl

theorem labels_supplyDefault (r : Registry) (id : String) (v : Value) :
    (r.supplyDefault id v).2.labels = r.labels := by
  unfold labels entries Schema.entries
  rw [toList_supplyDefault, List.flatMap_map, List.map_flatMap, List.map_flatMap]
  refine List.flatMap_congr fun s _ => ?_
  have hids := congrArg (List.map fun k => (s.origin, s.id, k)) (ids_fill id v s)
  rw [List.map_map, List.map_map] at hids
  rw [List.map_map, List.map_map]
  exact hids

end Registry

/-! ### A build -/

namespace Pipeline

variable {p : Pipeline}

/-- The duplicates found so far are the options registered so far that repeat an id. -/
theorem duplicateFindings_final {out : BuildOutput} (hok : p.build.2 = .ok out)
    (hplace : p.InPlace) :
    p.final.registry.InPlace ∧
      (p.turns.flatMap fun t => t.seen.duplicateFindings (some t.contributor) t.filtered) =
        p.final.registry.repeatFindings := by
  refine build_induct (P := fun st => (∀ t ∈ st.turns, t.filtered.InPlace) →
    st.registry.InPlace ∧
      (st.turns.flatMap fun t => t.seen.duplicateFindings (some t.contributor) t.filtered) =
        st.registry.repeatFindings) ?_ ?_ hok hplace
  · intro st t hseen h hturns
    obtain ⟨hr, hfindings⟩ := h fun u hu => hturns u (List.mem_append_left _ hu)
    have ht : t.filtered.InPlace := hturns t (List.mem_append_right _ List.mem_cons_self)
    -- what the observer hears in between does not change what is registered
    have htold : (t.seen.tell t.caused).InPlace := hseen ▸ hr
    refine ⟨htold.register (some t.contributor) ht, ?_⟩
    show (st.turns ++ [t]).flatMap _ =
      ((t.seen.tell t.caused).register (some t.contributor) t.filtered).2.repeatFindings
    rw [List.flatMap_append, hfindings, List.flatMap_singleton,
      htold.repeatFindings_register (some t.contributor) ht, hseen]
    rfl
  · intro _
    unfold Registry.repeatFindings Registry.entries Registry.InPlace
    rw [toList_start]
    exact ⟨fun s hs => absurd hs List.not_mem_nil, rfl⟩

theorem merged_inPlace {out : BuildOutput} (hok : p.build.2 = .ok out) (hplace : p.InPlace) :
    p.merged.InPlace :=
  supplyDefaults_induct (fun _ id v h => h.supplyDefault id v)
    (duplicateFindings_final hok hplace).1

theorem duplicateFindings_build (hon : p.options.diagnostics = true) {out : BuildOutput}
    (hok : p.build.2 = .ok out) (hplace : p.InPlace) :
    out.findings.filter (·.kind == .duplicateOption) = p.merged.repeatFindings := by
  have hlabels : p.merged.labels = p.final.registry.labels :=
    supplyDefaults_induct (P := fun r => r.labels = p.final.registry.labels)
      (fun r id v h => (r.labels_supplyDefault id v).trans h) rfl
  rw [duplicateFindings_of_build hon hok, (duplicateFindings_final hok hplace).2,
    Registry.repeatFindings_eq_labels, Registry.repeatFindings_eq_labels, hlabels]

theorem nodup_ids_iff (hon : p.options.diagnostics = true) {out : BuildOutput}
    (hok : p.build.2 = .ok out) (hplace : p.InPlace) :
    (∀ f ∈ out.findings, f.kind ≠ .duplicateOption) ↔ (out.schema.entries.map (·.2.id)).Nodup := by
  have hnone : (∀ f ∈ out.findings, f.kind ≠ .duplicateOption) ↔
      out.findings.filter (·.kind == .duplicateOption) = [] := by
    simp only [List.filter_eq_nil_iff, beq_iff_eq, ne_eq]
  have hperm := p.merged.entries_schema_perm.map (·.2.id)
  rw [hnone, duplicateFindings_build hon hok hplace, Registry.repeatFindings, List.map_eq_nil_iff,
    repeats_eq_nil_iff, schema_of_build hok, hperm.nodup_iff]

end Pipeline

theorem Schema.optionCount_eq_length_entries (s : Schema) : s.optionCount = s.entries.length := by
  unfold optionCount entries
  induction s.sections with
  | nil => rfl
  | cons sec rest ih =>
    have hsize : sec.entries.length = sec.options.size := List.length_map _
    rw [List.foldr_cons, ih, List.flatMap_cons, List.length_append, List.length_map, hsize]

namespace Pipeline

variable {p : Pipeline}

/-- **The duplicates found are the repeated ids.**  If what comes through the filters stands under
its own ids, the findings about duplicates are, in order, the registered options whose id an option
before them has, each laid to the contributor of its section.  So there is none exactly when the ids
of the schema are distinct, and with the distinct ids they make up the options of the schema. -/
theorem duplicates_are_repeats (hon : p.options.diagnostics = true) {out : BuildOutput}
    (hok : p.build.2 = .ok out) (hplace : p.InPlace) :
    out.schema = p.merged.schema ∧
    out.findings.filter (·.kind == .duplicateOption) =
      (repeats (·.2.id) p.merged.entries).map
        (fun x => duplicateFinding x.1.origin x.1.head x.2) ∧
    ((∀ f ∈ out.findings, f.kind ≠ .duplicateOption) ↔
      (out.schema.entries.map (·.2.id)).Nodup) ∧
    out.count .duplicateOption + (out.schema.entries.map (·.2.id)).eraseDups.length =
      out.schema.optionCount := by
  have hfindings := duplicateFindings_build hon hok hplace
  refine ⟨schema_of_build hok, hfindings, nodup_ids_iff hon hok hplace, ?_⟩
  have hperm := p.merged.entries_schema_perm
  have hcount : out.count .duplicateOption = (repeats (·.2.id) p.merged.entries).length := by
    rw [BuildOutput.count, List.countP_eq_length_filter, hfindings, Registry.repeatFindings,
      List.length_map]
  rw [hcount, Schema.optionCount_eq_length_entries, schema_of_build hok,
    length_eraseDups_of_perm (hperm.map _), hperm.length_eq, length_repeats_add]

end Pipeline

end ThemeOptions.Slotted

/-! ### A theme, its extension and a plugin -/

namespace ThemeOptions.Sample

/-- A plugin that repeats the accent, repeats an option of its own, and has a section that the theme
keeps out. -/
def plugin : Contributor where
  id := "plugin"
  priority := 30
  provenance := .pluginExtension
  run _ := .ok ⟨Keyed.ofList [
    { id := "colors", options := Keyed.ofList [color "accent" "gray" []] },
    { id := "marks"
      options := Keyed.ofList [color "accent" "blue" [], color "border" "black" []] },
    { id := "edges", options := Keyed.ofList [color "border" "white" []] }]⟩

def crowded : Pipeline :=
  { contributors := [theme, extension, plugin], filters := [], options := ⟨true⟩ }

/-- One option of the extension and two of the plugin repeat an id. -/
def crowdedRepeats : List Finding :=
  [⟨.duplicateOption, some "extension", "accent",
      "option 'accent' in section 'extras' is already defined elsewhere"⟩,
    ⟨.duplicateOption, some "plugin", "accent",
      "option 'accent' in section 'marks' is already defined elsewhere"⟩,
    ⟨.duplicateOption, some "plugin", "border",
      "option 'border' in section 'edges' is already defined elsewhere"⟩]

theorem repeatFindings_crowded : crowded.slotted.merged.repeatFindings = crowdedRepeats := by
  decide +kernel

end ThemeOptions.Sample

namespace ThemeOptions.Slotted

namespace Pipeline

theorem duplicates_crowded :
    Sample.crowded.slotted.options.diagnostics = true ∧ Sample.crowded.slotted.InPlace ∧
    ∃ out, Sample.crowded.slotted.build.2 = .ok out ∧
      out.findings.filter (·.kind == .duplicateOption) = Sample.crowdedRepeats ∧
      ¬(out.schema.entries.map (·.2.id)).Nodup ∧
      out.count .duplicateOption + (out.schema.entries.map (·.2.id)).eraseDups.length =
        out.schema.optionCount := by
  have hplace := Sample.crowded.inPlace_slotted
  have hok : Sample.crowded.slotted.build.2 =
      .ok (Sample.crowded.slotted.finish Sample.crowded.slotted.final) := rfl
  obtain ⟨-, hrepeats, hdistinct, hcount⟩ := duplicates_are_repeats rfl hok hplace
  have hfound := hrepeats.trans Sample.repeatFindings_crowded
  refine ⟨rfl, hplace, _, hok, hfound, fun h => ?_, hcount⟩
  have hnone := List.filter_eq_nil_iff.mpr fun f hf => mt beq_iff_eq.mp (hdistinct.mpr h f hf)
  exact absurd (hfound.symm.trans hnone) (List.cons_ne_nil _ _)

end Pipeline

/-! ### An option with another id -/

namespace Sample

/-- A theme that leaves its accent open and gives it another id afterwards. -/
def renamer : Contributor where
  id := "theme"
  priority := 10
  run _ :=
    ([], .ok ((Contribution.add {}
      (Section.add { id := "colors", title := some "Colors" }
        { id := "accent", kind := some .color, default := some .unset })).revise "colors"
      fun s => s.revise "accent" fun e => { e with id := "tint" }))

/-- A plugin that has an option with this id. -/
def tinter : Contributor where
  id := "plugin"
  priority := 20
  provenance := .pluginExtension
  run _ :=
    ([], .ok (Contribution.add {}
      (Section.add { id := "marks", title := some "Marks" }
        (ThemeOptions.Sample.color "tint" "blue" []))))

def renamed : Pipeline :=
  { contributors := [renamer, tinter], filters := [], options := ⟨true⟩ }

theorem findings_renamed : (renamed.finish renamed.final).findings = [] := by
  decide +kernel

theorem ids_renamed : renamed.merged.entries.map (·.2.id) = ["tint", "tint"] := by
  decide +kernel

end Sample

/-- Two options of the schema have one id, and nothing is found. -/
theorem renamed_unreported :
    Sample.renamed.options.diagnostics = true ∧ ∃ out, Sample.renamed.build.2 = .ok out ∧
      (∀ f ∈ out.findings, f.kind ≠ .duplicateOption) ∧
      ¬(out.schema.entries.map (·.2.id)).Nodup := by
  refine ⟨rfl, Sample.renamed.finish Sample.renamed.final, rfl, ?_, fun h => ?_⟩
  · rw [Sample.findings_renamed]
    exact fun f hf => absurd hf List.not_mem_nil
  · have hperm := Sample.renamed.merged.entries_schema_perm.map (·.2.id)
    have hnodup := hperm.nodup_iff.mp h
    rw [Sample.ids_renamed] at hnodup
    exact absurd hnodup (by decide)

/-! ### Distinct ids -/

end ThemeOptions.Slotted

namespace ThemeOptions

/-- Compilations one after the other. -/
def Compiled.join (cs : List Compiled) : Compiled where
  declarations := cs.flatMap Compiled.declarations
  findings := cs.flatMap Compiled.findings

end ThemeOptions

namespace ThemeOptions.Slotted

namespace Schema

/-- The schema with one option only. -/
def alone (s : Section) (e : Entry) : Schema :=
  ⟨[{ s with options := Slots.put Entry.id Keyed.empty e }]⟩

theorem compile_alone (s : Section) (e : Entry) (values : Source) (ts : Transforms) :
    (alone s e).compile values ts =
      Compiled.ofOutcomes (e.compile s.origin ts (values e.id)) :=
  congrArg Compiled.ofOutcomes (List.append_nil _)

/-- A compilation is that of each option alone, one after the other. -/
theorem compile_eq_join (s : Schema) (values : Source) (ts : Transforms) :
    s.compile values ts =
      Compiled.join (s.entries.map fun x => (alone x.1 x.2).compile values ts) := by
  unfold Compiled.join
  simp only [compile_alone, List.flatMap_map]
  unfold compile Compiled.ofOutcomes
  rw [List.filterMap_flatMap, List.filterMap_flatMap]

/-- An option whose id no other one has is found under it. -/
theorem entry?_of_mem {s : Schema} (hdistinct : (s.entries.map (·.2.id)).Nodup)
    {x : Section × Entry} (hx : x ∈ s.entries) : s.entry? x.2.id = some x.2 := by
  have hfind : s.entries.find? (·.2.id == x.2.id) = some x :=
    (Keyed.find?_eq_some_iff (c := ⟨s.entries, hdistinct⟩)).mpr ⟨hx, rfl⟩
  unfold entry?
  rw [hfind]
  rfl

theorem compile_defaults {s : Schema} (hdistinct : (s.entries.map (·.2.id)).Nodup)
    (ts : Transforms) :
    s.compile s.defaults ts = Compiled.join (s.entries.map fun x =>
      (alone x.1 x.2).compile (Source.constant x.2.effectiveDefault) ts) := by
  rw [compile_eq_join]
  refine congrArg Compiled.join (List.map_congr_left fun x hx => ?_)
  have hdefault : s.defaults x.2.id = x.2.effectiveDefault := by
    rw [defaults, entry?_of_mem hdistinct hx]
  rw [compile_alone, compile_alone, hdefault]
  rfl

end Schema

theorem Registry.InPlace.entry?_schema {r : Registry} (h : r.InPlace)
    (hdistinct : (r.schema.entries.map (·.2.id)).Nodup) (id : String) :
    r.entry? id = r.schema.entry? id := by
  rw [h.entry?_eq, Schema.entry?]
  exact congrArg (Option.map Prod.snd)
    (find?_eq_of_perm r.entries_schema_perm hdistinct id).symm

namespace Pipeline

/-- **Without duplicates an option stands for itself.**  If what comes through the filters stands
under its own ids and the checks find no duplicate, then every id leads to the same option in the
order of registration and in that of the priorities, and the schema compiled with its defaults is
each option compiled alone with its own default, one after the other. -/
theorem compile_defaults_alone {p : Pipeline} (hon : p.options.diagnostics = true)
    {out : BuildOutput} (hok : p.build.2 = .ok out) (hplace : p.InPlace)
    (hnone : ∀ f ∈ out.findings, f.kind ≠ .duplicateOption) :
    (∀ id, p.merged.entry? id = out.schema.entry? id) ∧
    ∀ ts, out.schema.compile out.schema.defaults ts =
      Compiled.join (out.schema.entries.map fun x =>
        (Schema.alone x.1 x.2).compile (Source.constant x.2.effectiveDefault) ts) := by
  have hdistinct := (nodup_ids_iff hon hok hplace).mp hnone
  refine ⟨fun id => ?_, fun ts => Schema.compile_defaults hdistinct ts⟩
  rw [schema_of_build hok] at hdistinct ⊢
  exact (merged_inPlace hok hplace).entry?_schema hdistinct id

end Pipeline

/-- Nothing is found, and yet the registry has an option under an id that leads to none in the
schema. -/
theorem renamed_not_in_schema :
    Sample.renamed.options.diagnostics = true ∧ ∃ out, Sample.renamed.build.2 = .ok out ∧
      (∀ f ∈ out.findings, f.kind ≠ .duplicateOption) ∧
      (Sample.renamed.merged.entry? "accent").isSome = true ∧
      out.schema.entry? "accent" = none := by
  refine ⟨rfl, Sample.renamed.finish Sample.renamed.final, rfl, ?_, by decide +kernel, ?_⟩
  · rw [Sample.findings_renamed]
    exact fun f hf => absurd hf List.not_mem_nil
  · have hperm := Sample.renamed.merged.entries_schema_perm.map (·.2.id)
    have hids := Sample.ids_renamed
    refine Option.map_eq_none_iff.mpr (List.find?_eq_none.mpr fun x hx => ?_)
    have hmem := hperm.mem_iff.mp (List.mem_map_of_mem hx)
    rw [hids] at hmem
    have hid : x.2.id = "tint" := by simpa using hmem
    rw [hid]
    decide

end ThemeOptions.Slotted

namespace ThemeOptions.Sample

/-- A plugin whose section comes before those of the theme and has options of its own. -/
def frame : Contributor where
  id := "frame"
  priority := 30
  provenance := .pluginExtension
  run _ := .ok ⟨Keyed.ofList [
    { id := "edges", title := some "Edges", priority := 1, options := Keyed.ofList [
      color "border" "black" [⟨"border-color", "img", none, none⟩]] }]⟩

def framed : Pipeline := { contributors := [theme, frame], filters := [], options := ⟨true⟩ }

end ThemeOptions.Sample

namespace ThemeOptions.Slotted.Pipeline

/-- The checks find that the theme's section has no title, and no duplicate. -/
theorem compile_defaults_alone_framed :
    Sample.framed.slotted.options.diagnostics = true ∧ Sample.framed.slotted.InPlace ∧
    ∃ out, Sample.framed.slotted.build.2 = .ok out ∧
      (∀ f ∈ out.findings, f.kind ≠ .duplicateOption) ∧
      (∀ id, Sample.framed.slotted.merged.entry? id = out.schema.entry? id) ∧
      ∀ ts, out.schema.compile out.schema.defaults ts =
        Compiled.join (out.schema.entries.map fun x =>
          (Schema.alone x.1 x.2).compile (Source.constant x.2.effectiveDefault) ts) := by
  have hplace := Sample.framed.inPlace_slotted
  have hok : Sample.framed.slotted.build.2 =
      .ok (Sample.framed.slotted.finish Sample.framed.slotted.final) := rfl
  have hnone : ∀ f ∈ (Sample.framed.slotted.finish Sample.framed.slotted.final).findings,
      f.kind ≠ .duplicateOption := by
    decide +kernel
  exact ⟨rfl, hplace, _, hok, hnone, compile_defaults_alone rfl hok hplace hnone⟩

end ThemeOptions.Slotted.Pipeline
