import ThemeOptions.Proofs.StylesheetBlocks

/-!
# The style sheet of the live declarations

A preview gets the style sheet of the live declarations alone, which is the whole style sheet just
when nothing asks for the page to be loaded again (`toLiveStylesheet_eq_iff`).

That something is missing cannot be read off the text: a declaration that is left out may have stood
between two blocks that are now one.  So the texts are compared by their lengths.  Going from one
block to another by way of a third never takes less text than going there directly
(`length_opening_le`), hence every declaration takes at least the text of its own line
(`length_stylesheetFrom_of_sublist`).
-/

open scoped List

namespace ThemeOptions

/-- The end of the open block, if there is one. -/
def closing (opened : Option String) : String :=
  if opened.isSome then "\x7d\n" else ""

/-- What is written before the line of a declaration with this selector: nothing in a block that is
its own, and else the end of the open block and the start of the next. -/
def opening (opened : Option String) (selector : String) : String :=
  if opened = some selector then "" else closing opened ++ selector ++ " \x7b\n"

theorem stylesheetFrom_nil (opened : Option String) :
    stylesheetFrom opened [] = closing opened := by
  cases opened <;> rfl

theorem stylesheetFrom_cons (opened : Option String) (d : Declaration) (ds : List Declaration) :
    stylesheetFrom opened (d :: ds) =
      opening opened d.selector ++ d.blockLine ++ stylesheetFrom (some d.selector) ds := by
  simp only [stylesheetFrom, opening, closing, Declaration.blockLine, String.append_assoc]

theorem length_closing (opened : Option String) :
    (closing opened).length = if opened.isSome then 2 else 0 := by
  have hmark : "\x7d\n".length = 2 := by decide
  cases opened with
  | none => rfl
  | some s => exact hmark

theorem length_opening (opened : Option String) (selector : String) :
    (opening opened selector).length =
      if opened = some selector then 0 else (closing opened).length + selector.length + 3 := by
  have hmark : " \x7b\n".length = 3 := by decide
  unfold opening
  split
  · rfl
  · rw [String.length_append, String.length_append, hmark]

/-- The shortest way into a block is the direct one. -/
theorem length_opening_le (opened : Option String) (s t : String) :
    (opening opened t).length ≤ (opening opened s).length + (opening (some s) t).length := by
  have hclosing := length_closing opened
  have hclosed : (closing (some s)).length = 2 := length_closing (some s)
  rw [length_opening, length_opening, length_opening, hclosed]
  by_cases ht : opened = some t
  · rw [if_pos ht]
    omega
  · by_cases hs : opened = some s
    · subst hs
      rw [hclosed]
      omega
    · by_cases hst : s = t
      · subst hst
        omega
      · have hne : some s ≠ some t := fun h => hst (Option.some.inj h)
        rw [if_neg ht, if_neg hs, if_neg hne]
        omega

/-- A style sheet is not longer than one with another block opened before it. -/
theorem length_stylesheetFrom_le (opened : Option String) (s : String) (ds : List Declaration) :
    (stylesheetFrom opened ds).length ≤
      (opening opened s).length + (stylesheetFrom (some s) ds).length := by
  cases ds with
  | nil =>
    have hclosing := length_closing opened
    have hclosed : (closing (some s)).length = 2 := length_closing (some s)
    rw [stylesheetFrom_nil, stylesheetFrom_nil, hclosed, hclosing]
    split <;> omega
  | cons d ds =>
    have hway := length_opening_le opened s d.selector
    rw [stylesheetFrom_cons, stylesheetFrom_cons]
    simp only [String.length_append]
    omega

theorem Declaration.length_blockLine (d : Declaration) :
    d.blockLine.length = d.property.length + d.value.length + 6 := by
  have hmarks : "  ".length = 2 ∧ ": ".length = 2 ∧ ";\n".length = 2 := by decide
  rw [blockLine]
  simp only [String.length_append]
  omega

/-- Each declaration that is left out makes the style sheet shorter by the marks of its line at
least.  The induction is on which declarations stay. -/
theorem length_stylesheetFrom_of_sublist {ds' ds : List Declaration} (h : ds' <+ ds)
    (opened : Option String) :
    (stylesheetFrom opened ds').length + 6 * ds.length ≤
      (stylesheetFrom opened ds).length + 6 * ds'.length := by
  induction h generalizing opened with
  | slnil => exact Nat.le_refl _
  | @cons ds' ds d h ih =>
    have hway := length_stylesheetFrom_le opened d.selector ds'
    have hrest := ih (some d.selector)
    have hline := d.length_blockLine
    rw [stylesheetFrom_cons, List.length_cons]
    simp only [String.length_append]
    omega
  | @cons_cons ds' ds d h ih =>
    have hrest := ih (some d.selector)
    rw [stylesheetFrom_cons, stylesheetFrom_cons, List.length_cons, List.length_cons]
    simp only [String.length_append]
    omega

/-- Leaving declarations out always changes the style sheet. -/
theorem eq_of_sublist_of_stylesheet_eq {ds' ds : List Declaration} (h : ds' <+ ds)
    (heq : stylesheet ds' = stylesheet ds) : ds' = ds := by
  have hlength := length_stylesheetFrom_of_sublist h none
  have hsame : (stylesheetFrom none ds').length = (stylesheetFrom none ds).length :=
    congrArg String.length heq
  refine h.eq_of_length_le ?_
  omega

namespace Compiled

theorem live_eq_iff (c : Compiled) : c.live = c.declarations ↔ c.requiresReload = false := by
  rw [live, List.filter_eq_self, requiresReload, List.any_eq_false]
  simp

/-- **The style sheet of the live declarations is the whole one just when no declaration asks for
the page to be loaded again.** -/
theorem toLiveStylesheet_eq_iff (c : Compiled) :
    c.toLiveStylesheet = c.toStylesheet ↔ c.requiresReload = false := by
  rw [← live_eq_iff]
  constructor
  · intro h
    exact eq_of_sublist_of_stylesheet_eq List.filter_sublist h
  · intro h
    rw [toLiveStylesheet, toStylesheet, h]

/-- Without the declaration between them, two blocks become one. -/
example :
    let c : Compiled := ⟨[⟨"a", "color", "red", "x", true⟩, ⟨"b", "top", "0", "y", false⟩,
      ⟨"a", "left", "0", "z", true⟩], []⟩
    c.toLiveStylesheet = "a \x7b\n  color: red;\n  left: 0;\n\x7d\n" := by
  decide +kernel

end Compiled

end ThemeOptions
