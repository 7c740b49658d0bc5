import ThemeOptions.Proofs.CleanContributions

/-!
# The values that are written

A declaration is made from one value (`Entry.Writes`): that of a font field, that of the option
itself, or what the transform of a rule makes of it.  Empty values are held back before they are
written, so every declaration has a property and a text (`Value.render_eq_empty_iff`), with one
exception: a font in the place of a single value is not empty, and has no text.

`Schema.declarations_written` says so for a whole compilation, and `fonts_written_empty` shows the
three ways in which the exception comes about.
-/

namespace ThemeOptions

/-! ### What is written -/

/-- The values that are written for an option which is set to `v`. -/
inductive Entry.Writes (e : Entry) (ts : Transforms) (v : Value) : Value → Prop where
  | field {f : FontField} {fv : Value} (font : e.isFont = true) (held : fontFieldsOf v f = some fv) :
    Writes e ts v fv
  | plain {r : Rule} (other : e.isFont = false) (rule : r ∈ e.rules) (none : r.transform? = none) :
    Writes e ts v v
  | transformed {r : Rule} {name : String} {t : Transform} {out : TransformOutput}
    (other : e.isFont = false) (rule : r ∈ e.rules) (named : r.transform? = some name)
    (found : ts.get? name = some t) (made : t.apply v r e = .ok out) :
    Writes e ts v out.value

/-- No transform makes a font. -/
def Transforms.MakeNoFonts (ts : Transforms) : Prop :=
  ∀ name t v r e out, ts.get? name = some t → t.apply v r e = .ok out → out.value.isFont = false

theorem Transforms.builtins_makeNoFonts : builtins.MakeNoFonts := by
  intro name t v r e out ht happly
  obtain ⟨b, -, rfl⟩ := builtins_get? ht
  obtain ⟨-, -, -, hout⟩ := Builtin.apply_eq_ok happly
  exact hout

/-- Whether a value has the form that an option asks for: a font only for a font option, and then
with single values in its fields. -/
def Entry.suits (e : Entry) : Value → Bool
  | .font fields => e.isFont && FontField.all.all fun f => !(fields f).any Value.isFont
  | _ => true

namespace Entry

variable {e : Entry} {ts : Transforms} {v w : Value} {d : Declaration}

theorem isFont_of_held {f : FontField} {fv : Value} (hsuits : e.suits v = true)
    (held : fontFieldsOf v f = some fv) : fv.isFont = false := by
  obtain ⟨rfl, -, t, rfl⟩ | ⟨fields, rfl, hfield⟩ := held_cases held
  · rfl
  · have hall := (Bool.and_eq_true _ _ ▸ hsuits : _ ∧ _).2
    have hf := List.all_eq_true.mp hall f (FontField.mem_all f)
    simpa [hfield] using hf

/-- What is written of a value of the right form is no font. -/
theorem Writes.isFont_eq_false (h : e.Writes ts v w) (hts : ts.MakeNoFonts)
    (hsuits : e.suits v = true) : w.isFont = false := by
  cases h with
  | field font held => exact isFont_of_held hsuits held
  | plain other rule none =>
    cases v with
    | font fields => simp [suits, other] at hsuits
    | _ => rfl
  | transformed other rule named found made => exact hts _ _ _ _ _ _ found made

/-- A declaration of an option has a property, and the text of a value that is written for it. -/
theorem writes_of_mem_declarations {origin : Option String} (hd : d ∈ e.declarations origin ts v) :
    Text.blank d.property = false ∧
      ∃ w unit, e.Writes ts v w ∧ w.isEmpty = false ∧ d.value = w.render unit := by
  rcases mem_compile (mem_declarations.mp hd) with ⟨hfont, selector, f, -, hfield⟩ |
    ⟨hother, r, hr, hrule⟩
  · obtain ⟨fv, hheld, hfilled, rfl⟩ := compileFontField_eq_declaration hfield.symm
    have hname : Text.blank f.name = false := by cases f <;> decide
    exact ⟨hname, fv, e.fontUnit f, .field hfont hheld, hfilled, rfl⟩
  · obtain ⟨property, v', hsource, hproperty, hfilled, rfl⟩ :=
      compileRule_eq_declaration hrule.symm
    have hblank : Text.blank (Text.trim property) = false := by rw [Text.blank_trim, hproperty]
    refine ⟨hblank, v', r.unitText, ?_, hfilled, rfl⟩
    rcases hsource with ⟨hnone, -, rfl⟩ | ⟨name, t, hname, ht, happly⟩
    · exact .plain hother hr hnone
    · exact .transformed hother hr hname ht happly

end Entry

/-- **What a declaration says.**  The property is never blank, and the text of the value is empty
exactly where a font is written in the place of a single value.  So no text is empty if the source
gives fonts to font options only, with single values in their fields, and no transform makes one;
the built-in ones do not. -/
theorem Schema.declarations_written (s : Schema) (values : Source) (ts : Transforms) :
    (∀ d ∈ (s.compile values ts).declarations,
      Text.blank d.property = false ∧
      ∃ x ∈ s.entries, d.optionId = x.2.id ∧ ∃ w, x.2.Writes ts (values x.2.id) w ∧
        w.isEmpty = false ∧ (d.value = "" ↔ w.isFont = true)) ∧
    (ts.MakeNoFonts → (∀ x ∈ s.entries, x.2.suits (values x.2.id) = true) →
      ∀ d ∈ (s.compile values ts).declarations, d.value ≠ "") ∧
    Transforms.builtins.MakeNoFonts := by
  have hwritten : ∀ d ∈ (s.compile values ts).declarations,
      Text.blank d.property = false ∧
      ∃ x ∈ s.entries, d.optionId = x.2.id ∧ ∃ w, x.2.Writes ts (values x.2.id) w ∧
        w.isEmpty = false ∧ (d.value = "" ↔ w.isFont = true) := by
    intro d hd
    rw [declarations_compile] at hd
    obtain ⟨x, hx, hdx⟩ := List.mem_flatMap.mp hd
    obtain ⟨hproperty, w, unit, hwrites, hfilled, hvalue⟩ := Entry.writes_of_mem_declarations hdx
    refine ⟨hproperty, x, hx, Entry.optionId_of_mem_declarations hdx, w, hwrites, hfilled, ?_⟩
    rw [hvalue]
    exact Value.render_eq_empty_iff hfilled unit
  refine ⟨hwritten, fun hts hsuits d hd hempty => ?_, Transforms.builtins_makeNoFonts⟩
  obtain ⟨-, x, hx, -, w, hwrites, -, hfont⟩ := hwritten d hd
  have hno := hwrites.isFont_eq_false hts (hsuits x hx)
  rw [hfont.mp hempty] at hno
  exact absurd hno (by decide)

/-! ### Fonts out of place -/

namespace Sample

/-- A font with a size only. -/
def sized : Value := .font (FontTable.empty.set .fontSize (.text "20"))

/-- A color, a border whose style goes through a transform, and a heading font. -/
def painted : Schema where
  sections :=
    [{ id := "looks"
       origin := some "theme"
       options := Keyed.ofList
        [{ id := "accent", kind := some .color, rules := [⟨"color", "a", none, none⟩] },
         { id := "border", kind := some .text,
           rules := [⟨"border-style", "img", none, some "frame"⟩] },
         { id := "heading", kind := some .font, selector := some "h1" }] }]

/-- A transform that gives the font whatever the value is. -/
def framing : Transforms :=
  ⟨Keyed.ofList [("frame", .custom fun _ r _ => .ok ⟨r.property, sized⟩)]⟩

/-- The accent is set to a font, the border to a text, and the family of the heading to a font. -/
def misplaced : Source := Source.ofPairs
  [("accent", sized), ("border", .text "solid"),
    ("heading", .font (FontTable.empty.set .fontFamily sized))]

/-- The accent and the border are set to texts, and the heading to a size. -/
def inPlace : Source := Source.ofPairs
  [("accent", .text "red"), ("border", .text "solid"), ("heading", sized)]

end Sample

/-- A font for a color, a font that a transform makes, and a font inside a font are all declared
without any text. -/
theorem fonts_written_empty :
    (Sample.painted.compile Sample.misplaced Sample.framing).declarations =
      [⟨"a", "color", "", "accent", false⟩, ⟨"img", "border-style", "", "border", false⟩,
        ⟨"h1", "font-family", "", "heading", false⟩] := by
  decide +kernel

/-- The heading is a font with a size in it, and the border's transform does not exist. -/
theorem declarations_written_inPlace :
    Transforms.builtins.MakeNoFonts ∧
    (∀ x ∈ Sample.painted.entries, x.2.suits (Sample.inPlace x.2.id) = true) ∧
    (Sample.painted.compile Sample.inPlace Transforms.builtins).declarations.map
      (fun d => (d.optionId, d.property)) = [("accent", "color"), ("heading", "font-size")] ∧
    ∀ d ∈ (Sample.painted.compile Sample.inPlace Transforms.builtins).declarations,
      Text.blank d.property = false ∧ d.value ≠ "" := by
  obtain ⟨hwritten, hfilled, hbuiltins⟩ :=
    Schema.declarations_written Sample.painted Sample.inPlace Transforms.builtins
  have hsuits : ∀ x ∈ Sample.painted.entries, x.2.suits (Sample.inPlace x.2.id) = true := by
    decide +kernel
  have hdeclared : (Sample.painted.compile Sample.inPlace Transforms.builtins).declarations.map
      (fun d => (d.optionId, d.property)) = [("accent", "color"), ("heading", "font-size")] := by
    decide +kernel
  exact ⟨hbuiltins, hsuits, hdeclared, fun d hd =>
    ⟨(hwritten d hd).1, hfilled hbuiltins hsuits d hd⟩⟩

end ThemeOptions
