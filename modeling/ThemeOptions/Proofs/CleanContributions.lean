import ThemeOptions.Check.Structure
import ThemeOptions.Proofs.Declarations
import ThemeOptions.Proofs.Registration
import ThemeOptions.Proofs.SelectorEnds

/-!
# What a clean contribution declares

A contribution on which the structural check finds nothing emits well-formed properties, whatever
the values are (`Entry.declaration_of_problems_eq_nil`).  Its selectors come trimmed from texts
which the check accepts, with one exception: of a font's own selector it only asks that it is not
blank.

`Contribution.declarations_of_clean` says this for the schema of one contribution.  What it leaves
open does happen (`clean_but_refused`): a font's own selector may open a block, and a selector may
end with a comma once a no-break space, which is no space of CSS, is trimmed off.
-/

namespace ThemeOptions

/-! ### What the structural check says -/

namespace Entry

variable {e : Entry}

theorem accepted_of_ruleProblems_eq_nil {r : Rule} (h : e.ruleProblems r = []) :
    Css.selectorProblem? r.selector = none ∧
      (Text.blank r.property = false → Css.isProperty r.property = true) := by
  obtain ⟨hselector, hproperty⟩ := List.append_eq_nil_iff.mp h
  refine ⟨by simpa using hselector, fun hfilled => ?_⟩
  rw [if_neg (by simp [hfilled])] at hproperty
  by_contra hno
  rw [if_neg hno] at hproperty
  exact absurd hproperty (by simp)

theorem ruleProblems_of_problems_eq_nil (h : e.problems = []) (hstatic : e.isStatic = false)
    {r : Rule} (hr : r ∈ e.rules) : e.ruleProblems r = [] := by
  unfold problems at h
  rw [List.append_eq_nil_iff, if_neg (by simp [hstatic]), List.flatMap_eq_nil_iff] at h
  obtain ⟨i, hi⟩ := List.mem_iff_getElem?.mp hr
  exact List.map_eq_nil_iff.mp (h.2 (r, i) (List.mem_zipIdx_iff_getElem?.mpr hi))

end Entry

theorem Contribution.problems_eq_nil {c : Contribution} {contributor : Option String}
    (h : c.structureFindings contributor = []) {s : Section} (hs : s ∈ c.sections.toList)
    {e : Entry} (he : e ∈ s.options.toList) : e.problems = [] := by
  have hsection := List.flatMap_eq_nil_iff.mp h s hs
  rw [Section.structureFindings, List.append_eq_nil_iff, List.flatMap_eq_nil_iff] at hsection
  exact List.map_eq_nil_iff.mp (hsection.2 e he)

/-! ### Properties -/

theorem isProperty_fontField (f : FontField) : Css.isProperty f.name = true := by
  cases f <;> decide +kernel

theorem isProperty_paddingTop : Css.isProperty "padding-top" = true := by
  decide +kernel

theorem Transforms.builtins_get? {name : String} {t : Transform}
    (h : builtins.get? name = some t) : ∃ b : Builtin, b.name = name ∧ t = .builtin b := by
  obtain ⟨x, hx, rfl⟩ := Option.map_eq_some_iff.mp h
  obtain ⟨hlisted, hname⟩ := Keyed.find?_eq_some_iff.mp hx
  have hmem : x ∈ Builtin.all.map fun b => (b.name, Transform.builtin b) := hlisted
  obtain ⟨b, -, rfl⟩ := List.mem_map.mp hmem
  exact ⟨b, hname, rfl⟩

/-- The built-in transforms that leave the property to the rule. -/
def Builtin.keepsProperty : Builtin → Bool
  | aspectRatio => false
  | _ => true

theorem Builtin.blank_percentage (ratio : Float) : Text.blank (percentage ratio) = false := by
  unfold percentage Text.blank
  rw [String.toList_append, List.all_append]
  have hsign : "%".toList.all Text.isBlank = false := by decide
  rw [hsign, Bool.and_false]

/-- A built-in transform takes a number, and gives a single value that is not empty. -/
theorem Builtin.apply_eq_ok {b : Builtin} {v : Value} {r : Rule} {out : TransformOutput}
    (h : b.apply v r = .ok out) :
    v.number?.isSome = true ∧
      out.property = (if b.keepsProperty then r.property else "padding-top") ∧
      out.value.isEmpty = false ∧ out.value.isFont = false := by
  unfold apply at h
  split at h
  · exact absurd h (by simp)
  · rename_i n hn
    rw [hn]
    split at h <;> obtain rfl := Except.ok.inj h
    · exact ⟨rfl, rfl, by simp [Value.isEmpty], rfl⟩
    · exact ⟨rfl, rfl, by simp [Value.isEmpty], rfl⟩
    · exact ⟨rfl, rfl, by simp [Value.isEmpty], rfl⟩
    · exact ⟨rfl, rfl, by rw [Value.isEmpty, blank_percentage], rfl⟩

theorem Builtin.number?_of_apply_eq_error {b : Builtin} {v : Value} {r : Rule}
    {err : TransformError} (h : b.apply v r = .error err) : v.number? = none := by
  unfold apply at h
  split at h
  · assumption
  · split at h <;> exact absurd h (by simp)

/-- The property of a rule's declaration is the rule's own or that of the aspect ratio. -/
theorem Entry.compileRule_builtins_eq_declaration {e : Entry} {origin : Option String} {v : Value}
    {r : Rule} {d : Declaration}
    (h : e.compileRule origin Transforms.builtins v r = .declaration d) :
    d.selector = Text.trim r.selector ∧
      ((Text.blank r.property = false ∧ d.property = Text.trim r.property) ∨
        d.property = Text.trim "padding-top") := by
  obtain ⟨property, v', hsource, hfilled, -, rfl⟩ := compileRule_eq_declaration h
  have hproperty : property = r.property ∨ property = "padding-top" := by
    rcases hsource with ⟨-, rfl, -⟩ | ⟨name, t, -, ht, happly⟩
    · exact Or.inl rfl
    · obtain ⟨b, -, rfl⟩ := Transforms.builtins_get? ht
      obtain ⟨-, hout, -, -⟩ := Builtin.apply_eq_ok happly
      have hcases : property = if b.keepsProperty then r.property else "padding-top" := hout
      by_cases hkeeps : b.keepsProperty = true
      · exact Or.inl (by rw [hcases, if_pos hkeeps])
      · exact Or.inr (by rw [hcases, if_neg hkeeps])
  refine ⟨rfl, ?_⟩
  rcases hproperty with rfl | rfl
  · exact Or.inl ⟨hfilled, rfl⟩
  · exact Or.inr rfl

/-! ### Declarations -/

/-- The texts that an option may be emitted at: its own selector and those of its rules. -/
def Entry.selectors (e : Entry) : List String := e.selector.toList ++ e.rules.map Rule.selector

theorem Entry.selector_of_fontSelector? {e : Entry} {selector : String}
    (h : e.fontSelector? = some selector) :
    e.selector = some selector ∨ ∃ r ∈ e.rules, r.selector = selector := by
  unfold fontSelector? at h
  split at h
  · rename_i s hs
    split at h
    · exact absurd h (by simp)
    · obtain rfl := Option.some.inj h
      rcases Option.or_eq_some_iff.mp hs with hown | ⟨-, hfirst⟩
      · exact Or.inl hown
      · obtain ⟨r, hr, rfl⟩ := Option.map_eq_some_iff.mp hfirst
        exact Or.inr ⟨r, List.mem_of_head? hr, rfl⟩
  · exact absurd h (by simp)

/-- What the structural check has made sure of when an option without problems is emitted. -/
theorem Entry.declaration_of_problems_eq_nil {e : Entry} (h : e.problems = [])
    {origin : Option String} {v : Value} {d : Declaration}
    (hd : d ∈ e.declarations origin Transforms.builtins v) :
    Css.isProperty d.property = true ∧ ∃ selector ∈ e.selectors, d.selector = Text.trim selector ∧
      (Css.selectorProblem? selector = none ∨ e.isFont = true ∧ e.selector = some selector) := by
  rw [mem_declarations] at hd
  have hstatic : e.isStatic = false := by
    by_contra hstatic
    rw [compile, emitsCss_of_isStatic (by simpa using hstatic)] at hd
    exact absurd hd (by simp)
  have hrule {r : Rule} (hr : r ∈ e.rules) := accepted_of_ruleProblems_eq_nil
    (ruleProblems_of_problems_eq_nil h hstatic hr)
  have hmem {r : Rule} (hr : r ∈ e.rules) : r.selector ∈ e.selectors :=
    List.mem_append_right _ (List.mem_map_of_mem hr)
  rcases mem_compile hd with ⟨hfont, selector, f, hselector, hfield⟩ | ⟨-, r, hr, hrd⟩
  · obtain ⟨fv, -, -, rfl⟩ := compileFontField_eq_declaration hfield.symm
    refine ⟨isProperty_fontField f, selector, ?_⟩
    rcases selector_of_fontSelector? hselector with hown | ⟨r, hr, rfl⟩
    · exact ⟨List.mem_append_left _ (by simp [hown]), rfl, Or.inr ⟨hfont, hown⟩⟩
    · exact ⟨hmem hr, rfl, Or.inl (hrule hr).1⟩
  · obtain ⟨hselector, hproperty⟩ := compileRule_builtins_eq_declaration hrd.symm
    refine ⟨?_, r.selector, hmem hr, hselector, Or.inl (hrule hr).1⟩
    rcases hproperty with ⟨hfilled, hown⟩ | hratio
    · rw [hown, Css.isProperty_trim, (hrule hr).2 hfilled]
    · rw [hratio, Css.isProperty_trim, isProperty_paddingTop]

/-- The options of the schema of one contribution are those of the contribution. -/
theorem mem_entries_register {c : Contribution} {origin : Option String} {x : Section × Entry}
    (hx : x ∈ (({} : Registry).register origin c).2.schema.entries) :
    ∃ s ∈ c.sections.toList, x.2 ∈ s.options.toList := by
  obtain ⟨hsection, hentry⟩ := Schema.mem_entries.mp hx
  rw [Registry.schema, List.mem_mergeSort, Registry.toList_register] at hsection
  obtain ⟨s, hs, hsx⟩ := List.mem_map.mp hsection
  rw [← hsx] at hentry
  exact ⟨s, (List.mem_filter.mp hs).1, hentry⟩

/-- **What a clean contribution declares.**  Every property is accepted, and every selector is the
trimmed text of one that is, unless it is a font's own.  An accepted selector stays accepted if only
spaces of CSS are trimmed. -/
theorem Contribution.declarations_of_clean {c : Contribution} {contributor : Option String}
    (h : c.structureFindings contributor = []) (origin : Option String) (values : Source) :
    ∀ d ∈ ((({} : Registry).register origin c).2.schema.compile values
        Transforms.builtins).declarations,
      Css.isProperty d.property = true ∧
      ∃ s ∈ c.sections.toList, ∃ e ∈ s.options.toList, d.optionId = e.id ∧
        ∃ selector ∈ e.selectors, d.selector = Text.trim selector ∧
          (Css.selectorProblem? selector = none ∨ e.isFont = true ∧ e.selector = some selector) ∧
          (Css.selectorProblem? selector = none → Css.plainEnds selector = true →
            Css.selectorProblem? d.selector = none) := by
  intro d hd
  rw [Schema.declarations_compile] at hd
  obtain ⟨x, hx, hdx⟩ := List.mem_flatMap.mp hd
  obtain ⟨s, hs, he⟩ := mem_entries_register hx
  obtain ⟨hproperty, selector, hmem, htrim, haccepted⟩ :=
    Entry.declaration_of_problems_eq_nil (problems_eq_nil h hs he) hdx
  refine ⟨hproperty, s, hs, x.2, he, Entry.optionId_of_mem_declarations hdx, selector, hmem, htrim,
    haccepted, fun hselector hends => ?_⟩
  rw [htrim]
  exact Css.selectorProblem?_trim hselector hends

/-! ### A clean contribution, and one that only looks clean -/

namespace Sample

/-- A heading font with its own selector, and an accent with a rule. -/
def headings (own rule : String) : Contribution where
  sections := Keyed.ofList
    [{ id := "headings"
       title := some "Headings"
       options := Keyed.ofList
        [{ id := "heading"
           kind := some .font
           selector := some own
           fieldSpecs := some (FontTable.empty.set .fontFamily {}) },
         { id := "accent", kind := some .color, rules := [⟨"color", rule, none, none⟩] }] }]

/-- What the headings declare if every option is set to the same text. -/
def headingDeclarations (own rule : String) : List Declaration :=
  ((({} : Registry).register (some "theme") (headings own rule)).2.schema.compile
    (Source.constant (.text "serif")) Transforms.builtins).declarations

theorem headingDeclarations_eq (own rule : String) :
    headingDeclarations own rule =
      (Schema.compile ⟨(headings own rule).sections.toList.map (Section.withOrigin (some "theme"))⟩
        (Source.constant (.text "serif")) Transforms.builtins).declarations := by
  have hschema : (({} : Registry).register (some "theme") (headings own rule)).2.schema =
      ⟨(headings own rule).sections.toList.map (Section.withOrigin (some "theme"))⟩ :=
    congrArg Schema.mk (List.mergeSort_singleton _)
  unfold headingDeclarations
  rw [hschema]

theorem headingDeclarations_broken : headingDeclarations "h1 \x7b" "h1,\u00a0" =
    [⟨"h1 \x7b", "font-family", "serif", "heading", false⟩,
      ⟨"h1,", "color", "serif", "accent", false⟩] := by
  rw [headingDeclarations_eq]
  decide +kernel

end Sample

/-- A font's own selector that opens a block, and one that ends with a comma and a no-break space,
pass the structural check; what is emitted passes no check. -/
theorem clean_but_refused :
    (Sample.headings "h1 \x7b" "h1,\u00a0").structureFindings (some "theme") = [] ∧
    (Sample.headingDeclarations "h1 \x7b" "h1,\u00a0").map
        (fun d => (d.optionId, Css.selectorProblem? d.selector)) =
      [("heading", some (.unexpected (.opening .curly))), ("accent", some .trailingComma)] := by
  rw [Sample.headingDeclarations_broken]
  exact ⟨by decide +kernel, by decide +kernel⟩

theorem declarations_of_clean_tidy :
    (Sample.headings " h1 " "a , b ").structureFindings (some "theme") = [] ∧
    (Sample.headingDeclarations " h1 " "a , b ").length = 2 ∧
    ∀ d ∈ Sample.headingDeclarations " h1 " "a , b ",
      Css.isProperty d.property = true ∧ Css.selectorProblem? d.selector = none := by
  have hclean : (Sample.headings " h1 " "a , b ").structureFindings (some "theme") = [] := by
    decide +kernel
  have hselectors : ∀ s ∈ (Sample.headings " h1 " "a , b ").sections.toList,
      ∀ e ∈ s.options.toList, ∀ selector ∈ e.selectors,
        Css.selectorProblem? selector = none ∧ Css.plainEnds selector = true := by
    decide +kernel
  refine ⟨hclean, by rw [Sample.headingDeclarations_eq]; decide +kernel, fun d hd => ?_⟩
  obtain ⟨hproperty, s, hs, e, he, -, selector, hmem, -, -, htrim⟩ :=
    Contribution.declarations_of_clean hclean (some "theme") (Source.constant (.text "serif")) d hd
  obtain ⟨haccepted, hends⟩ := hselectors s hs e he selector hmem
  exact ⟨hproperty, htrim haccepted hends⟩

end ThemeOptions
