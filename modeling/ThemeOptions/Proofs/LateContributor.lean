import Mathlib.Data.List.Basic
import ThemeOptions.Proofs.Build
import ThemeOptions.Proofs.Declarations

/-!
# A contributor that runs last

A pipeline `p'` `Extends` `p` by a contributor that runs after all others, perhaps with filters of
its own.  Up to that contributor both builds are the same run, so a failure of `p` is one of `p'`
(`Extends.contributeAll`), and what the last one registers can be told from the rest by its name.

`build_extends` draws the conclusion: taking the sections of the last contributor out of the schema
of `p'` gives the schema of `p`, and findings and declarations only get more.
-/

open scoped List

namespace ThemeOptions

/-- `p'` has one contributor more than `p`, which runs last, and perhaps filters for it. -/
structure Pipeline.Extends (p' p : Pipeline) (c : Contributor) : Prop where
  contributors : p'.contributors = p.contributors ++ [c]
  fresh : ∀ d ∈ p.contributors, d.id ≠ c.id
  filters : ∀ id, id ≠ c.id →
    p'.filters.filter (·.target == id) = p.filters.filter (·.target == id)
  house : p'.house = p.house
  defaults : p'.defaults = p.defaults
  options : p'.options = p.options
  watched : p'.watched = p.watched

/-! ### Adding a contributor to the lists -/

/-- A contributor with an id of its own that is above all others in the lists, wherever it stands in
them, runs last; its filters may stand anywhere. -/
theorem Pipeline.extends_ofLists (p : Pipeline) {cs₁ cs₂ : List Contributor} {c : Contributor}
    {fs fs' : List Filter} (fresh : ∀ d ∈ cs₁ ++ cs₂, d.id ≠ c.id)
    (h₁ : ∀ d ∈ cs₁, d.priority ≤ c.priority) (h₂ : ∀ d ∈ cs₂, d.priority < c.priority)
    (hfs : (fs'.filter fun f => f.target != c.id) = fs.filter fun f => f.target != c.id) :
    (p.withLists (cs₁ ++ c :: cs₂) fs').Extends (p.withLists (cs₁ ++ cs₂) fs) c := by
  obtain ⟨m₁, m₂, hm', hm, hsub₁, hsub₂⟩ :=
    @Keyed.ofList_insert Contributor Contributor.id c cs₁ cs₂ fresh
  constructor <;> try rfl
  · show (Keyed.ofList _ : Keyed Contributor Contributor.id).toList.mergeSort
      (StableSort.byPriority Contributor.priority) = _
    rw [hm', StableSort.mergeSort_byPriority_insert Contributor.priority
      (fun d hd => h₁ d (hsub₁ hd)) (fun d hd => h₂ d (hsub₂ hd)), ← hm]
    rfl
  · intro d hd
    have hd := List.mem_mergeSort.mp hd
    rw [hm] at hd
    refine fresh d ?_
    rcases List.mem_append.mp hd with hd | hd
    · exact List.mem_append_left _ (hsub₁ hd)
    · exact List.mem_append_right _ (hsub₂ hd)
  · intro id hid
    -- the filters for any other contributor are among those that are kept
    have hkeep (l : List Filter) : l.filter (·.target == id) =
        (l.filter fun f => f.target != c.id).filter (·.target == id) := by
      rw [List.filter_filter]
      refine List.filter_congr fun f _ => ?_
      by_cases hf : f.target = id <;> simp [hf, hid]
    show (ofLists (cs₁ ++ c :: cs₂) fs').filters.filter _ =
      (ofLists (cs₁ ++ cs₂) fs).filters.filter _
    rw [filters_ofLists, filters_ofLists, hkeep fs', hkeep fs, hfs]

/-! ### The two runs -/

namespace Pipeline

theorem Extends.contribute {p p' : Pipeline} {c : Contributor} (h : p'.Extends p c)
    (st : BuildState) {d : Contributor} (hd : d.id ≠ c.id) :
    p'.contribute st d = p.contribute st d :=
  contribute_congr h.house h.options (h.filters d.id hd) st

theorem Extends.contributeAll {p p' : Pipeline} {c : Contributor} (h : p'.Extends p c)
    (st : BuildState) {l : List Contributor} (hl : ∀ d ∈ l, d.id ≠ c.id) :
    p'.contributeAll st l = p.contributeAll st l :=
  contributeAll_congr (fun d hd st => h.contribute st (hl d hd)) st

theorem Extends.start {p p' : Pipeline} {c : Contributor} (h : p'.Extends p c) :
    p'.start = p.start := by
  rw [Pipeline.start, Pipeline.start, h.watched]

/-- The longer build is the shorter one, and then the last contributor. -/
theorem Extends.contributeAll_contributors {p p' : Pipeline} {c : Contributor}
    (h : p'.Extends p c) :
    p'.contributeAll p'.start p'.contributors =
      match p.contributeAll p.start p.contributors with
      | (st, none) => p'.contributeAll st [c]
      | (st, some e) => (st, some e) := by
  have happend := contributeAll_append p' p.start p.contributors [c]
  rw [h.contributeAll p.start h.fresh] at happend
  rw [h.contributors, h.start]
  exact happend

theorem contributeAll_singleton_eq_none {p : Pipeline} {st : BuildState} {c : Contributor}
    (h : (p.contributeAll st [c]).2 = none) :
    p.contribute st c = .ok (p.contributeAll st [c]).1 := by
  unfold Pipeline.contributeAll at h ⊢
  cases hc : p.contribute st c with
  | error e =>
    rw [hc] at h
    exact absurd h (by simp)
  | ok st' => rfl

theorem Extends.build_error {p p' : Pipeline} {c : Contributor} (h : p'.Extends p c)
    {e : BuildError} (he : p.build.2 = .error e) : p'.build.2 = .error e := by
  rw [build_eq_error_iff] at he ⊢
  rw [h.contributeAll_contributors]
  cases hrun : p.contributeAll p.start p.contributors with
  | mk st failed =>
    rw [hrun] at he
    obtain rfl : failed = some e := he
    rfl

/-- When both builds succeed, the longer one ends with a step of the last contributor from the state
in which the shorter one ends. -/
theorem Extends.build_ok {p p' : Pipeline} {c : Contributor} (h : p'.Extends p c)
    {out out' : BuildOutput} (hok : p.build.2 = .ok out) (hok' : p'.build.2 = .ok out') :
    ∃ st returned filtered, st.From (· ≠ c.id) ∧ out = p.finish st ∧
      out' = p'.finish (p'.accept st c.id returned filtered) := by
  obtain ⟨hnone, hout⟩ := build_eq_ok_iff.mp hok
  obtain ⟨hnone', hout'⟩ := build_eq_ok_iff.mp hok'
  rw [h.contributeAll_contributors] at hnone' hout'
  have hfrom : (p.contributeAll p.start p.contributors).1.From (· ≠ c.id) :=
    (start_from p _).contributeAll h.fresh
  cases hrun : p.contributeAll p.start p.contributors with
  | mk st failed =>
    rw [hrun] at hnone hout hnone' hout' hfrom
    obtain rfl : failed = none := hnone
    obtain ⟨returned, filtered, -, -, hst⟩ :=
      contribute_eq_ok_iff.mp (contributeAll_singleton_eq_none hnone')
    exact ⟨st, returned, filtered, hfrom, hout.symm, by rw [hst]; exact hout'.symm⟩

end Pipeline

/-! ### The two registries -/

/-- `r'` has the sections of `r`, none of which is of the contributor `id`, and then sections that
all are. -/
structure Registry.Extends (r' r : Registry) (id : String) : Prop where
  sections : ∃ new, r'.sections.toList = r.sections.toList ++ new ∧
    ∀ s ∈ new, s.origin = some id
  old : ∀ s ∈ r.sections.toList, s.origin ≠ some id

theorem Pipeline.Extends.supplyDefaults {p p' : Pipeline} {c : Contributor}
    (h : p'.Extends p c) {st : BuildState} (hst : st.From (· ≠ c.id))
    (returned filtered : Contribution) :
    (p'.supplyDefaults (p'.accept st c.id returned filtered).registry).Extends
      (p.supplyDefaults st.registry) c.id := by
  have hfill : p'.fillDefaults = p.fillDefaults := by
    funext s
    rw [fillDefaults, fillDefaults, h.defaults]
  constructor
  · refine ⟨((st.registry.freeSections filtered).map (Section.withOrigin (some c.id))).map
      p.fillDefaults, ?_, ?_⟩
    · rw [toList_supplyDefaults, toList_supplyDefaults, hfill, accept, Registry.toList_register,
        List.map_append]
    · intro s hs
      obtain ⟨t, ht, rfl⟩ := List.mem_map.mp hs
      obtain ⟨u, -, rfl⟩ := List.mem_map.mp ht
      rw [origin_fillDefaults]
      rfl
  · intro s hs
    rw [toList_supplyDefaults] at hs
    obtain ⟨t, ht, rfl⟩ := List.mem_map.mp hs
    obtain ⟨id, hid, hne⟩ := hst.sections t ht
    rw [origin_fillDefaults, hid]
    exact fun e => hne (Option.some.inj e)

namespace Registry.Extends

variable {r r' : Registry} {id : String}

/-- The sections of the shorter registry are those of other contributors. -/
theorem filter_toList (h : r'.Extends r id) :
    (r'.sections.toList.filter fun s => s.origin != some id) = r.sections.toList := by
  obtain ⟨new, hsections, hnew⟩ := h.sections
  have hkeep : (r.sections.toList.filter fun s => s.origin != some id) = r.sections.toList :=
    List.filter_eq_self.mpr fun s hs => by simpa using h.old s hs
  have hdrop : (new.filter fun s => s.origin != some id) = [] :=
    List.filter_eq_nil_iff.mpr fun s hs => by simpa using hnew s hs
  rw [hsections, List.filter_append, hkeep, hdrop, List.append_nil]

theorem filter_schema (h : r'.Extends r id) :
    (r'.schema.sections.filter fun s => s.origin != some id) = r.schema.sections := by
  show (r'.sections.toList.mergeSort (StableSort.byPriority Section.priority)).filter _ =
    r.sections.toList.mergeSort (StableSort.byPriority Section.priority)
  rw [StableSort.filter_mergeSort_byPriority, h.filter_toList]

/-- A section of the longer registry is one of the shorter registry, or else there is none under its
id there. -/
theorem section? (h : r'.Extends r id) (k : String) :
    r'.section? k = r.section? k ∨
      r.section? k = none ∧ ∀ s, r'.section? k = some s → s.origin = some id := by
  obtain ⟨new, hsections, hnew⟩ := h.sections
  unfold Registry.section? Keyed.find?
  rw [hsections, List.find?_append]
  cases r.sections.toList.find? (·.id == k) with
  | some s => exact Or.inl rfl
  | none =>
    refine Or.inr ⟨rfl, fun s hs => hnew s ?_⟩
    exact List.mem_of_find?_eq_some hs

/-- The check for open defaults finds the same for every other contributor. -/
theorem openDefaultFindings (h : r'.Extends r id) {k : String} (hk : k ≠ id)
    (c : Contribution) :
    r'.openDefaultFindings (some k) c = r.openDefaultFindings (some k) c := by
  unfold Registry.openDefaultFindings
  congr 1
  funext s
  rcases h.section? s.id with heq | ⟨hnone, horigin⟩
  · rw [heq]
  · rw [hnone]
    cases hs : r'.section? s.id with
    | none => rfl
    | some registered =>
      -- a section of the last contributor: the check leaves it to that one
      have hne : ¬(registered.origin == some k) = true := by
        rw [horigin registered hs, beq_iff_eq, Option.some.injEq]
        exact Ne.symm hk
      simp only [if_neg hne]

end Registry.Extends

/-! ### What the longer build gives -/

namespace Pipeline

theorem Extends.schema {p p' : Pipeline} {c : Contributor} (h : p'.Extends p c)
    {out out' : BuildOutput} (hok : p.build.2 = .ok out) (hok' : p'.build.2 = .ok out') :
    ∃ r r' : Registry, r'.Extends r c.id ∧ out.schema = r.schema ∧ out'.schema = r'.schema := by
  obtain ⟨st, returned, filtered, hst, rfl, rfl⟩ := h.build_ok hok hok'
  exact ⟨_, _, h.supplyDefaults hst returned filtered, rfl, rfl⟩

theorem Extends.findings {p p' : Pipeline} {c : Contributor} (h : p'.Extends p c)
    {out out' : BuildOutput} (hok : p.build.2 = .ok out) (hok' : p'.build.2 = .ok out') :
    out.findings <+ out'.findings := by
  obtain ⟨st, returned, filtered, hst, rfl, rfl⟩ := h.build_ok hok hok'
  have hregistry := h.supplyDefaults hst returned filtered
  unfold finish
  rw [h.options]
  refine List.Sublist.append (List.sublist_append_left _ _) ?_
  split
  · -- the contributors before are checked as before, and then comes the last one
    have hsame : Pipeline.openDefaultFindings (p.supplyDefaults st.registry) st.returned =
        Pipeline.openDefaultFindings
          (p'.supplyDefaults (p'.accept st c.id returned filtered).registry) st.returned :=
      List.flatMap_congr fun x hx =>
        (hregistry.openDefaultFindings (hst.returned x hx) x.2).symm
    rw [hsame]
    exact (List.sublist_append_left _ _).flatMap _
  · exact List.Sublist.refl _

/-- **A contributor that runs last disturbs nobody.**  A build that fails without it fails with it
in the same way; otherwise the schema without it is the schema with it less its own sections, and
findings and declarations stay in their order. -/
theorem build_extends {p p' : Pipeline} {c : Contributor} (h : p'.Extends p c) :
    (∀ e, p.build.2 = .error e → p'.build.2 = .error e) ∧
    ∀ out out', p.build.2 = .ok out → p'.build.2 = .ok out' →
      out.schema.sections = (out'.schema.sections.filter fun s => s.origin != some c.id) ∧
      out.findings <+ out'.findings ∧
      ∀ values ts, (out.schema.compile values ts).declarations <+
        (out'.schema.compile values ts).declarations := by
  refine ⟨fun e he => h.build_error he, fun out out' hok hok' => ?_⟩
  obtain ⟨r, r', hr, hs, hs'⟩ := h.schema hok hok'
  have hsections : out.schema.sections =
      (out'.schema.sections.filter fun s => s.origin != some c.id) := by
    rw [hs, hs', hr.filter_schema]
  refine ⟨hsections, h.findings hok hok', fun values ts => ?_⟩
  refine Schema.declarations_sublist ?_ values ts
  rw [hsections]
  exact List.filter_sublist

end Pipeline

/-! ### A theme and an extension of it -/

namespace Sample

/-- A color, and the rules that it is written by. -/
def color (id value : String) (rules : List Rule) : Entry :=
  { id, kind := some .color, default := some (.text value), rules }

def theme : Contributor where
  id := "theme"
  priority := 10
  run _ := .ok ⟨Keyed.ofList [
    { id := "colors", priority := 10, options := Keyed.ofList [
      color "accent" "red" [⟨"color", "a", none, none⟩],
      color "paper" "white" [⟨"background", "body", none, none⟩]] }]⟩

/-- An extension that has an accent of its own, further up. -/
def extension : Contributor where
  id := "extension"
  priority := 20
  provenance := .childExtension
  run _ := .ok ⟨Keyed.ofList [
    { id := "extras", priority := 1, options := Keyed.ofList [color "accent" "green" []] }]⟩

/-- A filter that sets the accent of the extension. -/
def tune : Filter where
  id := "tune"
  target := "extension"
  priority := 10
  run _ c := .ok (c.setDefault "accent" (some (.text "blue")))

def small : Pipeline := { contributors := [theme], filters := [], options := ⟨true⟩ }

def large : Pipeline :=
  { contributors := [theme, extension], filters := [tune], options := ⟨true⟩ }

theorem large_extends : large.Extends small extension where
  contributors := rfl
  fresh d hd := by
    rw [List.mem_singleton.mp hd]
    decide
  filters id hid := by
    have hne : (tune.target == id) = false := beq_eq_false_iff_ne.mpr (Ne.symm hid)
    show [tune].filter _ = [].filter _
    rw [List.filter_cons, hne]
    rfl
  house := rfl
  defaults := rfl
  options := rfl
  watched := rfl

end Sample

namespace Pipeline

/-- The extension puts its section before the one of the theme, and the theme's stays. -/
theorem build_extends_sample :
    Sample.large.Extends Sample.small Sample.extension ∧
    ∃ out out', Sample.small.build.2 = .ok out ∧ Sample.large.build.2 = .ok out' ∧
      out.schema.sections = (out'.schema.sections.filter fun s => s.origin != some "extension") ∧
      out.findings <+ out'.findings ∧
      ∀ values ts, (out.schema.compile values ts).declarations <+
        (out'.schema.compile values ts).declarations :=
  ⟨Sample.large_extends, _, _, rfl, rfl, (build_extends Sample.large_extends).2 _ _ rfl rfl⟩

end Pipeline

end ThemeOptions
