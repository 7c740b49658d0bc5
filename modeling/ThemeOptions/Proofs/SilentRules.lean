import ThemeOptions.Proofs.CleanContributions
import ThemeOptions.Proofs.Collections
import ThemeOptions.Proofs.Places

/-!
# Rules that give nothing

With the built-in transforms, every rule of a clean option gives a declaration or a finding once the
option has a value.  One kind of rule does neither (`Rule.fallsSilent`): the structural check lets a
rule go without a property as soon as it names a transform, but three of the four transforms leave
the property to the rule.

`Entry.compileRule_eq_nothing_iff` says so for one rule.  `Contribution.rules_of_clean` carries it
to the compilation of a whole contribution, where every rule has a place of its own.
-/

namespace ThemeOptions

/-! ### One rule -/

/-- Whether a rule gives nothing for a value: it has no property, and it names a built-in transform
that takes the value and leaves the property to the rule. -/
def Rule.fallsSilent (r : Rule) (v : Value) : Bool :=
  Text.blank r.property && v.number?.isSome &&
    Builtin.all.any fun b => b.keepsProperty && r.transform? == some b.name

theorem Builtin.mem_all (b : Builtin) : b ∈ all := by
  cases b <;> decide

theorem Builtin.eq_of_name_eq {b b' : Builtin} (h : b.name = b'.name) : b = b' := by
  cases b <;> cases b' <;> first | rfl | exact absurd h (by decide)

theorem Transforms.builtins_get?_name (b : Builtin) :
    builtins.get? b.name = some (.builtin b) := by
  cases b <;> rfl

theorem Rule.fallsSilent_iff {r : Rule} {v : Value} :
    r.fallsSilent v = true ↔ Text.blank r.property = true ∧ v.number?.isSome = true ∧
      ∃ b : Builtin, b.keepsProperty = true ∧ r.transform? = some b.name := by
  simp only [fallsSilent, Bool.and_eq_true, List.any_eq_true, beq_iff_eq, and_assoc]
  constructor
  · rintro ⟨hblank, hnumber, b, -, hkeeps, hname⟩
    exact ⟨hblank, hnumber, b, hkeeps, hname⟩
  · rintro ⟨hblank, hnumber, b, hkeeps, hname⟩
    exact ⟨hblank, hnumber, b, b.mem_all, hkeeps, hname⟩

namespace Entry

variable {e : Entry} {r : Rule} {v : Value}

/-- A rule of a clean option that names no transform has a property. -/
theorem property_of_ruleProblems_eq_nil (h : e.ruleProblems r = []) (hfont : e.isFont = false)
    (hname : r.transform? = none) : Text.blank r.property = false := by
  obtain ⟨-, hproperty⟩ := List.append_eq_nil_iff.mp h
  by_contra hblank
  rw [Bool.not_eq_false] at hblank
  rw [if_pos hblank, hname, hfont] at hproperty
  exact absurd hproperty (by simp)

theorem emit_eq_nothing_iff {property : String} :
    e.emit r property v = .nothing ↔ Text.blank property = true ∨ v.isEmpty = true := by
  unfold emit declare
  rw [← Bool.or_eq_true]
  split
  · rename_i hsilent
    exact ⟨fun _ => hsilent, fun _ => rfl⟩
  · rename_i hfilled
    exact ⟨fun h => absurd h (by simp), fun h => absurd h hfilled⟩

/-- **A rule of a clean option gives nothing only by falling silent.** -/
theorem compileRule_eq_nothing_iff (hclean : e.ruleProblems r = []) (hfont : e.isFont = false)
    (hvalue : v.isEmpty = false) (origin : Option String) :
    e.compileRule origin Transforms.builtins v r = .nothing ↔ r.fallsSilent v = true := by
  rw [Rule.fallsSilent_iff]
  unfold compileRule
  cases hname : r.transform? with
  | none =>
    have hproperty := property_of_ruleProblems_eq_nil hclean hfont hname
    simp [emit_eq_nothing_iff, hproperty, hvalue]
  | some name =>
    cases ht : Transforms.builtins.get? name with
    | none =>
      -- the name of a built-in transform is known
      simp only [ht, reduceCtorEq, false_iff]
      rintro ⟨-, -, b, -, hb⟩
      rw [Option.some.inj hb, Transforms.builtins_get?_name] at ht
      exact absurd ht (by simp)
    | some t =>
      obtain ⟨b, rfl, rfl⟩ := Transforms.builtins_get? ht
      simp only [ht, Transform.apply]
      cases happly : b.apply v r with
      | error err =>
        have hnumber := Builtin.number?_of_apply_eq_error happly
        simp [hnumber]
      | ok out =>
        obtain ⟨hnumber, hproperty, hfilled, -⟩ := Builtin.apply_eq_ok happly
        simp only [emit_eq_nothing_iff, hfilled, Bool.false_eq_true, or_false, hnumber, true_and]
        rw [hproperty]
        constructor
        · intro hblank
          by_cases hkeeps : b.keepsProperty = true
          · rw [if_pos hkeeps] at hblank
            exact ⟨hblank, b, hkeeps, rfl⟩
          · rw [if_neg hkeeps] at hblank
            exact absurd hblank (by decide)
        · rintro ⟨hblank, b', hkeeps, hb'⟩
          obtain rfl := Builtin.eq_of_name_eq (Option.some.inj hb')
          rw [if_pos hkeeps]
          exact hblank

end Entry

/-! ### The place of a rule -/

theorem Registry.nodup_schema (r : Registry) : r.schema.sections.Nodup :=
  (List.mergeSort_perm _ _).nodup_iff.mpr r.sections.nodup_toList

/-- A section whose id is free gets into the schema. -/
theorem Registry.mem_schema_register {r : Registry} {c : Contribution} {s : Section}
    (hs : s ∈ c.sections.toList) (hfree : r.section? s.id = none) (origin : Option String) :
    s.withOrigin origin ∈ (r.register origin c).2.schema.sections := by
  have hkept : s ∈ r.freeSections c := by
    refine List.mem_filter.mpr ⟨hs, ?_⟩
    rw [Keyed.contains_eq_false_iff.mpr (section?_eq_none_iff.mp hfree)]
    rfl
  rw [schema, List.mem_mergeSort, toList_register]
  exact List.mem_append_right _ (List.mem_map_of_mem hkept)

namespace Schema

variable {s : Schema} {sec : Section} {e : Entry} {item : Nat}

/-- An option of a schema has exactly one place for each of its rules. -/
theorem exists_place (hdistinct : s.sections.Nodup) (hsec : sec ∈ s.sections)
    (he : e ∈ sec.options.toList) (item : Nat) :
    ∃ p, ∀ q, s.entryAt? q = some (sec, e) ∧ q.itemIndex = item ↔ q = p := by
  obtain ⟨i, hi⟩ := List.mem_iff_getElem?.mp hsec
  obtain ⟨j, hj⟩ := List.mem_iff_getElem?.mp he
  refine ⟨⟨i, j, item⟩, fun q => ⟨?_, ?_⟩⟩
  · rintro ⟨hq, rfl⟩
    obtain ⟨hqsec, hqe⟩ := entryAt?_eq_some.mp hq
    have hi' : i < s.sections.length := (List.getElem?_eq_some_iff.mp hi).1
    have hj' : j < sec.options.toList.length := (List.getElem?_eq_some_iff.mp hj).1
    have hsection : i = q.sectionIndex := (List.getElem?_inj hi' hdistinct).mp (hi.trans hqsec.symm)
    have hoption : j = q.optionIndex :=
      (List.getElem?_inj hj' sec.options.nodup_toList).mp (hj.trans hqe.symm)
    rw [hsection, hoption]
  · rintro rfl
    exact ⟨entryAt?_eq_some.mpr ⟨hi, hj⟩, rfl⟩

/-- A place is one of declarations or one of findings, or nothing comes of it. -/
theorem declaring_or_reporting {values : Source} {ts : Transforms} {p : Place} (hp : p ∈ s.places) :
    if s.outcomeAt values ts p = .nothing then
      p ∉ s.declaring values ts ∧ p ∉ s.reporting values ts
    else
      p ∈ s.declaring values ts ∧ p ∉ s.reporting values ts ∨
        p ∈ s.reporting values ts ∧ p ∉ s.declaring values ts := by
  simp only [declaring, reporting, List.mem_filter, hp, true_and]
  cases s.outcomeAt values ts p <;> simp [Outcome.declaration?, Outcome.finding?]

/-- What a rule of a clean option gives is counted once, unless it falls silent. -/
theorem rule_of_clean {values : Source} {p : Place} {r : Rule} (hp : s.entryAt? p = some (sec, e))
    (hclean : e.problems = []) (hfont : e.isFont = false) (hstatic : e.isStatic = false)
    (hvalue : (values e.id).isEmpty = false) (hrule : e.rules[p.itemIndex]? = some r) :
    if r.fallsSilent (values e.id) then
      p ∉ s.declaring values Transforms.builtins ∧ p ∉ s.reporting values Transforms.builtins
    else
      p ∈ s.declaring values Transforms.builtins ∧ p ∉ s.reporting values Transforms.builtins ∨
        p ∈ s.reporting values Transforms.builtins ∧
          p ∉ s.declaring values Transforms.builtins := by
  have hlt : p.itemIndex < e.itemCount := by
    rw [Entry.itemCount, if_neg (by simp [hfont])]
    exact (List.getElem?_eq_some_iff.mp hrule).1
  have hplace : p ∈ s.places := mem_places.mpr ⟨(sec, e), hp, hlt⟩
  have houtcome : s.outcomeAt values Transforms.builtins p = _ :=
    outcomeAt_eq_compileRule hp hstatic hfont hrule hvalue
  have hproblems :=
    Entry.ruleProblems_of_problems_eq_nil hclean hstatic (List.mem_of_getElem? hrule)
  have hsilent := Entry.compileRule_eq_nothing_iff hproblems hfont hvalue sec.origin
  rw [← houtcome] at hsilent
  simp only [← hsilent]
  exact declaring_or_reporting hplace

end Schema

/-- **Every rule of a clean contribution is accounted for, unless it falls silent.**  Declarations
and findings are those of distinct places in order.  A rule of an option with a value has one place;
if it falls silent, nothing comes of it, and otherwise exactly one declaration or one finding. -/
theorem Contribution.rules_of_clean {c : Contribution} {contributor : Option String}
    (h : c.structureFindings contributor = []) (before : Registry) (origin : Option String)
    (values : Source) :
    let s := (before.register origin c).2.schema
    let declaring := s.declaring values Transforms.builtins
    let reporting := s.reporting values Transforms.builtins
    let outcome := s.outcomeAt values Transforms.builtins
    let out := s.compile values Transforms.builtins
    (out.declarations.map .declaration = declaring.map outcome ∧ declaring.Nodup ∧
      out.findings.map .finding = reporting.map outcome ∧ reporting.Nodup) ∧
    ∀ sec ∈ c.sections.toList, before.section? sec.id = none →
      ∀ e ∈ sec.options.toList, e.isFont = false → e.isStatic = false →
        (values e.id).isEmpty = false → ∀ i r, e.rules[i]? = some r →
          ∃ p, (∀ q, s.entryAt? q = some (sec.withOrigin origin, e) ∧ q.itemIndex = i ↔ q = p) ∧
            if r.fallsSilent (values e.id) then p ∉ declaring ∧ p ∉ reporting
            else p ∈ declaring ∧ p ∉ reporting ∨ p ∈ reporting ∧ p ∉ declaring := by
  intro s declaring reporting outcome out
  have hplaces : s.places.Nodup := s.pairwise_places.imp fun {p q} hbefore he => by
    subst he
    simp [Place.Before] at hbefore
  refine ⟨⟨s.declarations_eq_declaring values _, hplaces.filter _,
    s.findings_eq_reporting values _, hplaces.filter _⟩, ?_⟩
  intro sec hsec hfree e he hfont hstatic hvalue i r hrule
  obtain ⟨p, hp⟩ := Schema.exists_place (Registry.nodup_schema _)
    (Registry.mem_schema_register hsec hfree origin) he i
  obtain ⟨hentry, rfl⟩ := (hp p).mpr rfl
  exact ⟨p, hp, Schema.rule_of_clean hentry (problems_eq_nil h hsec he) hfont hstatic hvalue hrule⟩

/-! ### A clean contribution with a silent rule -/

namespace Sample

/-- A gap that is written by rules with and without a property. -/
def gaps : Contribution where
  sections := Keyed.ofList
    [{ id := "layout"
       title := some "Layout"
       options := Keyed.ofList
        [{ id := "gap"
           kind := some .text
           rules := [⟨"", ".box", some "px", some "spacing"⟩,
             ⟨"margin", ".box", some "px", some "spacing"⟩,
             ⟨"", ".box", none, some "stretch"⟩] }] }]

/-- The gap is 20. -/
def wide : Source := Source.constant (.number 20)

theorem schema_gaps : (({} : Registry).register (some "theme") gaps).2.schema =
    ⟨gaps.sections.toList.map (Section.withOrigin (some "theme"))⟩ :=
  congrArg Schema.mk (List.mergeSort_singleton _)

end Sample

/-- The structural check finds nothing wrong with the gap, and its first rule gives neither a
declaration nor a finding. -/
theorem clean_but_silent :
    Sample.gaps.structureFindings (some "theme") = [] ∧
    let s := (({} : Registry).register (some "theme") Sample.gaps).2.schema
    s.places = [⟨0, 0, 0⟩, ⟨0, 0, 1⟩, ⟨0, 0, 2⟩] ∧
      s.declaring Sample.wide Transforms.builtins = [⟨0, 0, 1⟩] ∧
      s.reporting Sample.wide Transforms.builtins = [⟨0, 0, 2⟩] := by
  refine ⟨by decide +kernel, ?_⟩
  rw [Sample.schema_gaps]
  decide +kernel

/-- The rule with a property and the one whose transform does not exist are accounted for. -/
theorem rules_of_clean_gaps :
    Sample.gaps.structureFindings (some "theme") = [] ∧
    let s := (({} : Registry).register (some "theme") Sample.gaps).2.schema
    ∀ i ∈ [1, 2], ∃ p : Place, p.itemIndex = i ∧
      (p ∈ s.declaring Sample.wide Transforms.builtins ∧
          p ∉ s.reporting Sample.wide Transforms.builtins ∨
        p ∈ s.reporting Sample.wide Transforms.builtins ∧
          p ∉ s.declaring Sample.wide Transforms.builtins) := by
  have hclean : Sample.gaps.structureFindings (some "theme") = [] := by decide +kernel
  refine ⟨hclean, fun i hi => ?_⟩
  obtain ⟨-, hrules⟩ :=
    Contribution.rules_of_clean hclean ({} : Registry) (some "theme") Sample.wide
  have hrule := hrules _ List.mem_cons_self rfl _ List.mem_cons_self rfl rfl rfl i
  rcases List.mem_cons.mp hi with rfl | hi
  · obtain ⟨p, hp, haccounted⟩ := hrule _ rfl
    rw [if_neg (by decide +kernel)] at haccounted
    exact ⟨p, ((hp p).mpr rfl).2, haccounted⟩
  · rw [List.mem_singleton] at hi
    subst hi
    obtain ⟨p, hp, haccounted⟩ := hrule _ rfl
    rw [if_neg (by decide +kernel)] at haccounted
    exact ⟨p, ((hp p).mpr rfl).2, haccounted⟩

end ThemeOptions
