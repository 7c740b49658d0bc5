import ThemeOptions.Proofs.Declarations
import ThemeOptions.Proofs.NumberTexts
import ThemeOptions.Proofs.OptionValues

/-!
# The declarations of a font

A font is declared field by field in canonical order, at the selector of its option.  A field is
declared just when its option does not switch it off and the value that was set last for it is not
empty; the rules of the option play no part.

All of that follows from one form of the declarations, for whatever value the option has
(`declarations_of_isFont`): a value gives a table over the fields, and each field of the table is
looked at by itself (`fieldDeclaration?`).
-/

namespace ThemeOptions

/-! ### Units -/

namespace Value

/-- A number, or a text that is one. -/
def isNumeric : Value → Bool
  | number _ => true
  | text t => Css.isNumber t
  | _ => false

/-- A unit is written behind numeric values only. -/
theorem render_eq (v : Value) (unit : String) :
    v.render unit = v.render "" ++ if v.isNumeric then unit else "" := by
  cases v with
  | number n => simp [render, isNumeric]
  | text t =>
    rw [isNumeric, ← Css.isNumber_trim]
    unfold render
    dsimp only
    split <;> simp
  | _ => simp [render, isNumeric]

end Value

namespace Entry

/-- Sizes and letter spacings have the unit that is configured, or else pixels and ems; no other
field has one. -/
def unitOf (e : Entry) : FontField → String
  | .fontSize => ((e.fontFields .fontSize).bind FontFieldSpec.unit).getD "px"
  | .letterSpacing => ((e.fontFields .letterSpacing).bind FontFieldSpec.unit).getD "em"
  | _ => ""

theorem fontUnit_eq (e : Entry) (f : FontField) : e.fontUnit f = e.unitOf f := by
  cases f <;> rfl

/-! ### Field by field -/

/-- The declaration of a font field with a value, unless the field is switched off or the value is
empty. -/
def fieldDeclaration? (e : Entry) (selector : String) (f : FontField) (v : Value) :
    Option Declaration :=
  if e.enables f && !v.isEmpty then
    some {
      selector := Text.trim selector
      property := f.name
      value := v.render "" ++ if v.isNumeric then e.unitOf f else ""
      optionId := e.id
      live := e.live }
  else none

variable {e : Entry} {selector : String}

theorem declaration?_compileFontField (e : Entry) (selector : String) (v : Value) (f : FontField) :
    (e.compileFontField selector v f).declaration? =
      (fontFieldsOf v f).bind (e.fieldDeclaration? selector f) := by
  unfold compileFontField
  cases fontFieldsOf v f with
  | none => rfl
  | some fv =>
    rw [Option.bind_some, fieldDeclaration?, ← fontUnit_eq, ← Value.render_eq]
    cases e.enables f <;> cases hempty : fv.isEmpty <;>
      simp [hempty, Outcome.declaration?, declare]

/-- An empty value holds nothing in any field. -/
theorem isEmpty_of_held {v fv : Value} {f : FontField} (hempty : v.isEmpty = true)
    (h : fontFieldsOf v f = some fv) : fv.isEmpty = true := by
  obtain ⟨rfl, -, t, rfl⟩ | ⟨fields, rfl, hfield⟩ := held_cases h
  · exact hempty
  · rw [Value.isEmpty, List.all_eq_true] at hempty
    simpa [hfield, Value.isEmptyField] using hempty f (FontField.mem_all f)

/-- The declarations of a font, whatever the value is. -/
theorem declarations_of_isFont (hfont : e.isFont = true)
    (hselector : e.fontSelector? = some selector) (origin : Option String) (ts : Transforms)
    (v : Value) :
    e.declarations origin ts v = FontField.all.filterMap fun f =>
      (fontFieldsOf v f).bind (e.fieldDeclaration? selector f) := by
  have hkind : e.kind = some .font := by simpa [isFont] using hfont
  have hemits : e.emitsCss = true := by rw [emitsCss, hkind, hselector]; rfl
  unfold declarations compile
  rw [hemits, hfont, hselector]
  cases hempty : v.isEmpty with
  | false =>
    simp only [Bool.not_true, Bool.false_or, Bool.false_eq_true, if_false, if_true,
      List.filterMap_map]
    exact List.filterMap_congr fun f _ => declaration?_compileFontField e selector v f
  | true =>
    have hnothing : ∀ f, (fontFieldsOf v f).bind (e.fieldDeclaration? selector f) = none := by
      intro f
      cases hheld : fontFieldsOf v f with
      | none => rfl
      | some fv => simp [fieldDeclaration?, isEmpty_of_held hempty hheld]
    simp [hnothing]

theorem isEmpty_family (t : String) :
    (Value.font (FontTable.empty.set .fontFamily (.text t))).isEmpty = (Value.text t).isEmpty := by
  simp [Value.isEmpty, Value.isEmptyField, FontField.all, FontTable.set, FontTable.empty]

/-- A text is a font with that family and nothing else. -/
theorem compile_text (hfont : e.isFont = true) (origin : Option String) (ts : Transforms)
    (t : String) : e.compile origin ts (.text t) =
      e.compile origin ts (.font (FontTable.empty.set .fontFamily (.text t))) := by
  have hheld (selector : String) : e.compileFontField selector (.text t) =
      e.compileFontField selector (.font (FontTable.empty.set .fontFamily (.text t))) := rfl
  simp only [compile, hfont, isEmpty_family, hheld, if_true]

/-- Nothing declares a field that is switched off. -/
theorem enables_of_mem_declarations (hfont : e.isFont = true)
    (hselector : e.fontSelector? = some selector) {origin : Option String} {ts : Transforms}
    {v : Value} {d : Declaration} {f : FontField} (hd : d ∈ e.declarations origin ts v)
    (hproperty : d.property = f.name) : e.enables f = true := by
  rw [declarations_of_isFont hfont hselector] at hd
  obtain ⟨g, -, hg⟩ := List.mem_filterMap.mp hd
  obtain ⟨fv, -, hfv⟩ := Option.bind_eq_some_iff.mp hg
  unfold fieldDeclaration? at hfv
  split at hfv
  · rename_i hfilled
    obtain rfl := Option.some.inj hfv
    rw [← FontField.eq_of_name_eq hproperty]
    exact (Bool.and_eq_true _ _ ▸ hfilled : _ ∧ _).1
  · cases hfv

/-- **What is declared of a font.**  Whatever is set for its fields one after the other, there is
one declaration, in canonical order, for each field that is not switched off and whose last value is
not empty.  The order in which different fields are set does not matter, nothing declares a field
that is switched off, a text counts as a family, and as long as the selector stays the same, neither
the rules of the option nor the transforms matter. -/
theorem declarations_of_font (hfont : e.isFont = true)
    (hselector : e.fontSelector? = some selector) (origin : Option String) (ts : Transforms) :
    (∀ sets : List (FontField × Value),
      e.declarations origin ts (.font (FontTable.empty.setAll sets)) =
        FontField.all.filterMap fun f =>
          (FontTable.last? sets f).bind (e.fieldDeclaration? selector f)) ∧
    (∀ sets sets' : List (FontField × Value),
      (∀ f, sets'.filter (·.1 == f) = sets.filter (·.1 == f)) →
        FontTable.empty.setAll sets' = FontTable.empty.setAll sets) ∧
    (∀ v, ∀ d ∈ e.declarations origin ts v, ∀ f, d.property = f.name → e.enables f = true) ∧
    (∀ t, e.compile origin ts (.text t) =
      e.compile origin ts (.font (FontTable.empty.set .fontFamily (.text t)))) ∧
    ∀ rules ts' v, ({ e with rules := rules } : Entry).fontSelector? = some selector →
      ({ e with rules := rules } : Entry).declarations origin ts' v =
        e.declarations origin ts v := by
  refine ⟨fun sets => ?_, fun sets sets' h => FontTable.setAll_congr h _,
    fun v d hd f => enables_of_mem_declarations hfont hselector hd, compile_text hfont origin ts,
    fun rules ts' v hrules => ?_⟩
  · rw [declarations_of_isFont hfont hselector]
    refine List.filterMap_congr fun f _ => ?_
    rw [fontFieldsOf, FontTable.setAll_apply, FontTable.empty, Option.or_none]
  · have hfont' : ({ e with rules := rules } : Entry).isFont = true := hfont
    rw [declarations_of_isFont hfont' hrules, declarations_of_isFont hfont hselector]
    rfl

end Entry

namespace Sample

/-- The font of a title: its size is in another unit, and its alignment is switched off. -/
def titleFont : Entry where
  id := "title"
  kind := some .font
  selector := some " h1 "
  rules := [⟨"color", "h2", none, some "auto_contrast"⟩]
  fieldSpecs := some <|
    (FontTable.empty.set .fontSize { unit := some "rem" }).set .textAlign { enabled := false }

/-- The size is set twice. -/
def titleSets : List (FontField × Value) :=
  [(.letterSpacing, .text "2"), (.fontSize, .text "large"), (.textAlign, .text "center"),
    (.fontWeight, .text " "), (.fontSize, .text "20"), (.fontFamily, .text "Lora")]

/-- The same values with the family set first. -/
def familyFirst : List (FontField × Value) :=
  (.fontFamily, .text "Lora") :: titleSets.dropLast

end Sample

/-- The family, the size that is set last and the letter spacing are declared; the alignment is
switched off, the weight is blank, and the rule declares nothing. -/
theorem declarations_of_font_title :
    Sample.titleFont.isFont = true ∧ Sample.titleFont.fontSelector? = some " h1 " ∧
    Sample.titleFont.declarations none Transforms.builtins
        (.font (FontTable.empty.setAll Sample.titleSets)) =
      [⟨"h1", "font-family", "Lora", "title", false⟩, ⟨"h1", "font-size", "20rem", "title", false⟩,
        ⟨"h1", "letter-spacing", "2em", "title", false⟩] ∧
    FontTable.empty.setAll Sample.familyFirst = FontTable.empty.setAll Sample.titleSets ∧
    ∀ v, ({ Sample.titleFont with rules := [] } : Entry).declarations none Transforms.builtins v =
      Sample.titleFont.declarations none Transforms.builtins v := by
  have hfont : Sample.titleFont.isFont = true := by decide
  have hselector : Sample.titleFont.fontSelector? = some " h1 " := by decide +kernel
  obtain ⟨hfields, hreordered, -, -, hrules⟩ :=
    Entry.declarations_of_font hfont hselector none Transforms.builtins
  refine ⟨hfont, hselector, ?_, hreordered _ _ fun f => ?_, fun v => hrules [] _ v ?_⟩
  · rw [hfields]
    decide +kernel
  · cases f <;> rfl
  · decide +kernel

end ThemeOptions
