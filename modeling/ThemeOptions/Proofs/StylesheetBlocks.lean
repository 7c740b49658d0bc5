import Mathlib.Data.List.Infix
import Mathlib.Data.List.SplitBy
import ThemeOptions.Stylesheet

/-!
# The blocks of a style sheet

A style sheet is the concatenation of its blocks, one for each maximal run of consecutive
declarations with the same selector (`stylesheet_of_isRuns`).

Nothing in it is escaped.  Still, where no text holds a line feed and no property a colon with a
space behind it, the style sheet determines all that it shows (`shown_of_stylesheetFrom_eq`): two
style sheets are read in parallel, and after each declaration both stand in a block with the same
selector, so a line that starts with spaces can only be the next declaration and a line that starts
with a bracket only the end of the block.
-/

namespace ThemeOptions

namespace Declaration

/-- What a style sheet shows of a declaration. -/
def shown (d : Declaration) : String × String × String := (d.selector, d.property, d.value)

/-- The line of a declaration inside its block. -/
def blockLine (d : Declaration) : String := "  " ++ d.property ++ ": " ++ d.value ++ ";\n"

/-- The texts of a declaration that does not spill over its lines, with a property that ends at the
first colon that a space follows. -/
structure IsPlain (d : Declaration) : Prop where
  selector : '\n' ∉ d.selector.toList
  property : '\n' ∉ d.property.toList
  value : '\n' ∉ d.value.toList
  undivided : ¬[':', ' '] <:+: d.property.toList

instance (d : Declaration) : Decidable d.IsPlain :=
  decidable_of_iff
    ('\n' ∉ d.selector.toList ∧ '\n' ∉ d.property.toList ∧ '\n' ∉ d.value.toList ∧
      ¬[':', ' '] <:+: d.property.toList)
    ⟨fun ⟨selector, property, value, undivided⟩ => ⟨selector, property, value, undivided⟩,
      fun ⟨selector, property, value, undivided⟩ => ⟨selector, property, value, undivided⟩⟩

end Declaration

/-- The block of declarations that share the selector of the first; without declarations there is
none. -/
def block : List Declaration → String
  | [] => ""
  | d :: ds =>
    d.selector ++ " \x7b\n" ++ String.join ((d :: ds).map Declaration.blockLine) ++ "\x7d\n"

/-- The maximal runs of consecutive declarations with the same selector. -/
def selectorRuns (ds : List Declaration) : List (List Declaration) :=
  ds.splitBy fun d d' => d.selector == d'.selector

/-- A list of declarations cut into maximal runs with the same selector. -/
structure IsRuns (runs : List (List Declaration)) (ds : List Declaration) : Prop where
  flatten : runs.flatten = ds
  filled : [] ∉ runs
  alike : ∀ run ∈ runs, ∀ d ∈ run, ∀ d' ∈ run, d.selector = d'.selector
  apart : runs.IsChain fun run next => ∀ d ∈ run, ∀ d' ∈ next, d.selector ≠ d'.selector

/-! ### Blocks -/

/-- A style sheet starts with the line that opens its first block. -/
theorem stylesheet_cons (d : Declaration) (ds : List Declaration) :
    stylesheet (d :: ds) =
      d.selector ++ " \x7b\n" ++ (d.blockLine ++ stylesheetFrom (some d.selector) ds) := by
  simp only [stylesheet, stylesheetFrom, Declaration.blockLine, reduceCtorEq, if_false,
    Option.isSome_none, Bool.false_eq_true, String.empty_append, String.append_assoc]

/-- Inside a block, a declaration with another selector closes it. -/
theorem stylesheetFrom_some_of_ne {s : String} {ds : List Declaration}
    (h : ∀ d ∈ ds.head?, d.selector ≠ s) :
    stylesheetFrom (some s) ds = "\x7d\n" ++ stylesheet ds := by
  cases ds with
  | nil => rfl
  | cons d ds =>
    have hne : some s ≠ some d.selector := fun e => h d rfl (Option.some.inj e).symm
    simp [stylesheet, stylesheetFrom, hne, String.append_assoc]

/-- Inside a block, a declaration with the same selector is one more line of it. -/
theorem stylesheetFrom_some_self (d : Declaration) (ds : List Declaration) :
    stylesheetFrom (some d.selector) (d :: ds) =
      d.blockLine ++ stylesheetFrom (some d.selector) ds := by
  simp only [stylesheetFrom, if_true, Declaration.blockLine, String.empty_append,
    String.append_assoc]

theorem stylesheetFrom_some_append {s : String} {run : List Declaration}
    (h : ∀ d ∈ run, d.selector = s) (ds : List Declaration) :
    stylesheetFrom (some s) (run ++ ds) =
      String.join (run.map Declaration.blockLine) ++ stylesheetFrom (some s) ds := by
  induction run with
  | nil => simp
  | cons d run ih =>
    obtain ⟨rfl, hrun⟩ := List.forall_mem_cons.mp h
    rw [List.cons_append, stylesheetFrom_some_self, ih hrun, List.map_cons, String.join_cons,
      String.append_assoc]

/-- A run with one selector is a block of its own if another selector follows. -/
theorem stylesheet_append {run ds : List Declaration} (hfilled : run ≠ [])
    (halike : ∀ d ∈ run, ∀ d' ∈ run, d.selector = d'.selector)
    (hapart : ∀ d ∈ run, ∀ d' ∈ ds.head?, d.selector ≠ d'.selector) :
    stylesheet (run ++ ds) = block run ++ stylesheet ds := by
  obtain ⟨d, run, rfl⟩ := List.exists_cons_of_ne_nil hfilled
  have hrun : ∀ d' ∈ run, d'.selector = d.selector := fun d' hd' =>
    halike d' (List.mem_cons_of_mem d hd') d List.mem_cons_self
  have hds : ∀ d' ∈ ds.head?, d'.selector ≠ d.selector := fun d' hd' e =>
    hapart d List.mem_cons_self d' hd' e.symm
  rw [List.cons_append, stylesheet_cons, stylesheetFrom_some_append hrun,
    stylesheetFrom_some_of_ne hds, block, List.map_cons, String.join_cons]
  simp only [String.append_assoc]

/-- A style sheet is one block for each run.  The induction is on the runs: the selector of the
first differs from that of the declaration behind it, which is the head of the next run. -/
theorem stylesheet_of_isRuns {runs : List (List Declaration)} {ds : List Declaration}
    (h : IsRuns runs ds) : stylesheet ds = String.join (runs.map block) := by
  obtain ⟨rfl, hfilled, halike, hapart⟩ := h
  induction runs with
  | nil => rfl
  | cons run runs ih =>
    obtain ⟨hrun, hruns⟩ := List.ne_and_not_mem_of_not_mem_cons hfilled
    obtain ⟨hrunAlike, hrunsAlike⟩ := List.forall_mem_cons.mp halike
    obtain ⟨hnext, hrunsApart⟩ := List.isChain_cons.mp hapart
    have hhead : ∀ d ∈ run, ∀ d' ∈ runs.flatten.head?, d.selector ≠ d'.selector := by
      intro d hd d' hd'
      cases runs with
      | nil => exact absurd hd' (by simp)
      | cons next runs =>
        obtain ⟨e, next, rfl⟩ :=
          List.exists_cons_of_ne_nil (List.ne_and_not_mem_of_not_mem_cons hruns).1.symm
        obtain rfl : e = d' := by simpa using hd'
        exact hnext _ rfl d hd e List.mem_cons_self
    rw [List.flatten_cons, stylesheet_append (Ne.symm hrun) hrunAlike hhead,
      ih hruns hrunsAlike hrunsApart, List.map_cons, String.join_cons]

/-- A run has one selector as soon as neighbours have the same. -/
theorem alike_iff_isChain {run : List Declaration} :
    (∀ d ∈ run, ∀ d' ∈ run, d.selector = d'.selector) ↔
      run.IsChain fun d d' => (d.selector == d'.selector) = true := by
  constructor
  · intro h
    refine List.Pairwise.isChain (List.pairwise_of_forall_mem_list fun d hd d' hd' => ?_)
    exact beq_iff_eq.mpr (h d hd d' hd')
  · intro h d hd d' hd'
    have heq : (run.map Declaration.selector).IsChain (· = ·) := by
      simpa [List.isChain_map] using h
    obtain ⟨e, run, rfl⟩ := List.exists_cons_of_ne_nil (List.ne_nil_of_mem hd)
    have hall := List.isChain_eq_iff_eq_replicate.mp heq e.selector rfl
    have hfirst : ∀ d ∈ e :: run, d.selector = e.selector := fun d hd =>
      List.eq_of_mem_replicate (hall ▸ List.mem_map_of_mem hd)
    rw [hfirst d hd, hfirst d' hd']

/-- There is one way to cut declarations into maximal runs. -/
theorem isRuns_iff {runs : List (List Declaration)} {ds : List Declaration} :
    IsRuns runs ds ↔ selectorRuns ds = runs := by
  refine Iff.trans ?_ List.splitBy_eq_iff.symm
  constructor
  · rintro ⟨hflatten, hfilled, halike, hapart⟩
    refine ⟨hflatten.symm, hfilled, fun run hrun => alike_iff_isChain.mp (halike run hrun), ?_⟩
    refine hapart.imp_of_mem_imp fun run next hrun hnext h => ?_
    have hne : run ≠ [] := fun e => hfilled (e ▸ hrun)
    have hne' : next ≠ [] := fun e => hfilled (e ▸ hnext)
    exact ⟨hne, hne', beq_eq_false_iff_ne.mpr
      (h _ (List.getLast_mem hne) _ (List.head_mem hne'))⟩
  · rintro ⟨hflatten, hfilled, hchain, hlast⟩
    have halike : ∀ run ∈ runs, ∀ d ∈ run, ∀ d' ∈ run, d.selector = d'.selector :=
      fun run hrun => alike_iff_isChain.mpr (hchain run hrun)
    refine ⟨hflatten.symm, hfilled, halike, ?_⟩
    refine hlast.imp_of_mem_imp fun run next hrun hnext h d hd d' hd' => ?_
    obtain ⟨hne, hne', hends⟩ := h
    rw [halike run hrun d hd _ (List.getLast_mem hne),
      halike next hnext d' hd' _ (List.head_mem hne')]
    exact beq_eq_false_iff_ne.mp hends

/-! ### What a style sheet determines -/

/-- A text can be cut at the first place of a mark, provided the mark overlaps with no other place
where it may stand. -/
theorem append_mark_inj (mark : List Char) {xs xs' ys ys' : List Char}
    (hmark : ∀ zs us us', mark ++ us = zs ++ (mark ++ us') → zs = [] ∨ mark <:+: zs)
    (h : ¬mark <:+: xs) (h' : ¬mark <:+: xs') (heq : xs ++ (mark ++ ys) = xs' ++ (mark ++ ys')) :
    xs = xs' ∧ ys = ys' := by
  rcases List.append_eq_append_iff.mp heq with ⟨zs, rfl, hzs⟩ | ⟨zs, rfl, hzs⟩
  · obtain rfl | hin := hmark zs ys ys' hzs
    · simpa using hzs
    · exact absurd (hin.trans (List.suffix_append xs zs).isInfix) h'
  · obtain rfl | hin := hmark zs ys' ys hzs
    · simpa [eq_comm] using hzs
    · exact absurd (hin.trans (List.suffix_append xs' zs).isInfix) h

theorem append_lineFeed_inj {xs xs' ys ys' : List Char} (h : '\n' ∉ xs) (h' : '\n' ∉ xs')
    (heq : xs ++ '\n' :: ys = xs' ++ '\n' :: ys') : xs = xs' ∧ ys = ys' := by
  have hmark : ∀ zs us us', ['\n'] ++ us = zs ++ (['\n'] ++ us') → zs = [] ∨ ['\n'] <:+: zs := by
    intro zs us us' heq
    cases zs with
    | nil => exact Or.inl rfl
    | cons z zs =>
      obtain ⟨rfl, -⟩ := List.cons.inj heq
      exact Or.inr (List.prefix_append ['\n'] zs).isInfix
  rw [← List.singleton_infix_iff] at h h'
  exact append_mark_inj _ hmark h h' heq

theorem append_colon_inj {xs xs' ys ys' : List Char} (h : ¬[':', ' '] <:+: xs)
    (h' : ¬[':', ' '] <:+: xs') (heq : xs ++ ':' :: ' ' :: ys = xs' ++ ':' :: ' ' :: ys') :
    xs = xs' ∧ ys = ys' := by
  refine append_mark_inj [':', ' '] (fun zs us us' heq => ?_) h h' heq
  match zs with
  | [] => exact Or.inl rfl
  | [z] => exact absurd (List.cons.inj (List.cons.inj heq).2).1 (by decide)
  | z :: w :: zs =>
    obtain ⟨rfl, hrest⟩ := List.cons.inj heq
    obtain ⟨rfl, -⟩ := List.cons.inj hrest
    exact Or.inr (List.prefix_append [':', ' '] zs).isInfix

namespace Declaration

variable {d d' : Declaration} {rest rest' : String}

/-- The line of a declaration can be cut off. -/
theorem blockLine_append_inj (hd : d.IsPlain) (hd' : d'.IsPlain)
    (h : d.blockLine ++ rest = d'.blockLine ++ rest') :
    d.property = d'.property ∧ d.value = d'.value ∧ rest = rest' := by
  have hline (e : Declaration) (r : String) : (e.blockLine ++ r).toList =
      ' ' :: ' ' :: ((e.property.toList ++ ':' :: ' ' :: (e.value.toList ++ [';'])) ++
        '\n' :: r.toList) := by
    simp [blockLine, String.toList_append]
  have hplain (e : Declaration) (he : e.IsPlain) :
      '\n' ∉ e.property.toList ++ ':' :: ' ' :: (e.value.toList ++ [';']) := by
    simp [he.property, he.value]
  have hlist := congrArg String.toList h
  rw [hline, hline] at hlist
  obtain ⟨htext, hrest⟩ := append_lineFeed_inj (hplain d hd) (hplain d' hd')
    (List.cons.inj (List.cons.inj hlist).2).2
  obtain ⟨hproperty, hvalue⟩ := append_colon_inj hd.undivided hd'.undivided htext
  exact ⟨String.toList_inj.mp hproperty,
    String.toList_inj.mp (List.append_cancel_right hvalue), String.toList_inj.mp hrest⟩

/-- The line that opens a block can be cut off. -/
theorem selector_append_inj (hd : d.IsPlain) (hd' : d'.IsPlain)
    (h : d.selector ++ " \x7b\n" ++ rest = d'.selector ++ " \x7b\n" ++ rest') :
    d.selector = d'.selector ∧ rest = rest' := by
  have hline (e : Declaration) (r : String) : (e.selector ++ " \x7b\n" ++ r).toList =
      (e.selector.toList ++ [' ', '\x7b']) ++ '\n' :: r.toList := by
    simp [String.toList_append]
  have hplain (e : Declaration) (he : e.IsPlain) : '\n' ∉ e.selector.toList ++ [' ', '\x7b'] := by
    simp [he.selector]
  have hlist := congrArg String.toList h
  rw [hline, hline] at hlist
  obtain ⟨hselector, hrest⟩ := append_lineFeed_inj (hplain d hd) (hplain d' hd') hlist
  exact ⟨String.toList_inj.mp (List.append_cancel_right hselector), String.toList_inj.mp hrest⟩

end Declaration

/-- The line of a declaration is no end of a block. -/
theorem blockLine_append_ne (d : Declaration) (rest rest' : String) :
    d.blockLine ++ rest ≠ "\x7d\n" ++ rest' := by
  intro h
  have hlist := congrArg String.toList h
  simp [Declaration.blockLine, String.toList_append] at hlist

theorem stylesheetFrom_cons_ne_nil (opened : Option String) (d : Declaration)
    (ds : List Declaration) : stylesheetFrom opened (d :: ds) ≠ stylesheetFrom opened [] := by
  have hne : stylesheet (d :: ds) ≠ "" := by
    intro h
    have hlist := congrArg String.toList h
    simp [stylesheet_cons, String.toList_append] at hlist
  cases opened with
  | none => exact hne
  | some s =>
    by_cases hs : d.selector = s
    · subst hs
      rw [stylesheetFrom_some_self]
      exact blockLine_append_ne d _ ""
    · rw [stylesheetFrom_some_of_ne (by simpa using hs)]
      exact fun h => hne (by simpa [stylesheetFrom] using h)

/-- What the first lines of a style sheet determine, if they open a block. -/
theorem shown_of_stylesheet_cons_eq {d d' : Declaration} {ds ds' : List Declaration}
    (hd : d.IsPlain) (hd' : d'.IsPlain) (h : stylesheet (d :: ds) = stylesheet (d' :: ds')) :
    d.shown = d'.shown ∧
      stylesheetFrom (some d.selector) ds = stylesheetFrom (some d.selector) ds' := by
  rw [stylesheet_cons, stylesheet_cons] at h
  obtain ⟨hselector, hlines⟩ := Declaration.selector_append_inj hd hd' h
  obtain ⟨hproperty, hvalue, hrest⟩ := Declaration.blockLine_append_inj hd hd' hlines
  refine ⟨by rw [Declaration.shown, Declaration.shown, hselector, hproperty, hvalue], ?_⟩
  rw [hrest, hselector]

/-- Style sheets that are equal show the same.  The induction runs through both lists at once;
behind the first declarations both are in a block with the same selector. -/
theorem shown_of_stylesheetFrom_eq {ds ds' : List Declaration} (hds : ∀ d ∈ ds, d.IsPlain)
    (hds' : ∀ d ∈ ds', d.IsPlain) (opened : Option String)
    (h : stylesheetFrom opened ds = stylesheetFrom opened ds') :
    ds.map Declaration.shown = ds'.map Declaration.shown := by
  induction ds generalizing ds' opened with
  | nil =>
    cases ds' with
    | nil => rfl
    | cons d' ds' => exact absurd h.symm (stylesheetFrom_cons_ne_nil opened d' ds')
  | cons d ds ih =>
    cases ds' with
    | nil => exact absurd h (stylesheetFrom_cons_ne_nil opened d ds)
    | cons d' ds' =>
      obtain ⟨hd, hrest⟩ := List.forall_mem_cons.mp hds
      obtain ⟨hd', hrest'⟩ := List.forall_mem_cons.mp hds'
      suffices hnext : d.shown = d'.shown ∧
          stylesheetFrom (some d.selector) ds = stylesheetFrom (some d.selector) ds' by
        rw [List.map_cons, List.map_cons, hnext.1, ih hrest hrest' (some d.selector) hnext.2]
      cases opened with
      | none => exact shown_of_stylesheet_cons_eq hd hd' h
      | some s =>
        by_cases hs : d.selector = s <;> by_cases hs' : d'.selector = s
        · -- both go on in the block
          subst hs
          rw [stylesheetFrom_some_self, ← hs', stylesheetFrom_some_self] at h
          obtain ⟨hproperty, hvalue, hlines⟩ := Declaration.blockLine_append_inj hd hd' h
          refine ⟨by rw [Declaration.shown, Declaration.shown, hs', hproperty, hvalue], ?_⟩
          rw [← hs', hlines]
        · subst hs
          have hother : ∀ e ∈ (d' :: ds').head?, e.selector ≠ d.selector := by simpa using hs'
          rw [stylesheetFrom_some_self, stylesheetFrom_some_of_ne hother] at h
          exact absurd h (blockLine_append_ne d _ _)
        · subst hs'
          have hother : ∀ e ∈ (d :: ds).head?, e.selector ≠ d'.selector := by simpa using hs
          rw [stylesheetFrom_some_self, stylesheetFrom_some_of_ne hother] at h
          exact absurd h.symm (blockLine_append_ne d' _ _)
        · -- both open the next block
          rw [stylesheetFrom_some_of_ne (by simpa using hs),
            stylesheetFrom_some_of_ne (by simpa using hs')] at h
          exact shown_of_stylesheet_cons_eq hd hd' ((String.append_right_inj _).mp h)

/-- **What a style sheet shows, and how.**  Where no text holds a line feed and no property a colon
with a space behind it, equal style sheets show the same selectors, properties and values in the
same order.  Every style sheet is one block for each maximal run of declarations with the same
selector, and there is one way to cut the declarations into such runs. -/
theorem stylesheet_blocks :
    (∀ ds ds' : List Declaration, (∀ d ∈ ds, d.IsPlain) → (∀ d ∈ ds', d.IsPlain) →
      stylesheet ds = stylesheet ds' → ds.map Declaration.shown = ds'.map Declaration.shown) ∧
    ∀ ds : List Declaration,
      stylesheet ds = String.join ((selectorRuns ds).map block) ∧
      IsRuns (selectorRuns ds) ds ∧ ∀ runs, IsRuns runs ds → runs = selectorRuns ds := by
  refine ⟨fun ds ds' hds hds' h => shown_of_stylesheetFrom_eq hds hds' none h, fun ds => ?_⟩
  have hruns : IsRuns (selectorRuns ds) ds := isRuns_iff.mpr rfl
  exact ⟨stylesheet_of_isRuns hruns, hruns, fun runs h => (isRuns_iff.mp h).symm⟩

namespace Sample

/-- Declarations whose texts look like the lines of a style sheet, of the options with these ids. -/
def lookalikes (first second third : String) : List Declaration :=
  [⟨"\x7d", "a:b:", "c; \x7d", first, true⟩, ⟨"\x7d", "", ": a", second, false⟩,
    ⟨"  a: b; \x7b", "a", "b", third, true⟩]

end Sample

theorem stylesheet_blocks_lookalikes :
    (∀ d ∈ Sample.lookalikes "x" "y" "z", d.IsPlain) ∧
    (∀ d ∈ Sample.lookalikes "u" "v" "w", d.IsPlain) ∧
    stylesheet (Sample.lookalikes "x" "y" "z") = stylesheet (Sample.lookalikes "u" "v" "w") ∧
    (Sample.lookalikes "x" "y" "z").map Declaration.shown =
      (Sample.lookalikes "u" "v" "w").map Declaration.shown ∧
    (selectorRuns (Sample.lookalikes "x" "y" "z")).map List.length = [2, 1] := by
  have hplain : ∀ d ∈ Sample.lookalikes "x" "y" "z", d.IsPlain := by decide +kernel
  have hplain' : ∀ d ∈ Sample.lookalikes "u" "v" "w", d.IsPlain := by decide +kernel
  have hsheet : stylesheet (Sample.lookalikes "x" "y" "z") =
      stylesheet (Sample.lookalikes "u" "v" "w") := by
    decide +kernel
  exact ⟨hplain, hplain', hsheet, stylesheet_blocks.1 _ _ hplain hplain' hsheet, by decide +kernel⟩

end ThemeOptions
