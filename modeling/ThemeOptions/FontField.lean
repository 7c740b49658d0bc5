import ThemeOptions.Text.Blank

/-!
# Font fields

A font option is a record of typographic fields.  The eight fields have one canonical order, that of
`FontField.all`, in which everything about them is listed and emitted.  A table over the fields is a
function, so two tables are equal as soon as they agree on every field.
-/

namespace ThemeOptions

/-- A typographic field of a font. -/
inductive FontField where
  | fontFamily
  | fontWeight
  | fontSize
  | lineHeight
  | letterSpacing
  | textAlign
  | textTransform
  | textDecoration
deriving DecidableEq, Repr

namespace FontField

/-- The fields in canonical order. -/
def all : List FontField :=
  [fontFamily, fontWeight, fontSize, lineHeight, letterSpacing, textAlign, textTransform,
    textDecoration]

/-- The name of a field, which is also its CSS property. -/
def name : FontField → String
  | fontFamily => "font-family"
  | fontWeight => "font-weight"
  | fontSize => "font-size"
  | lineHeight => "line-height"
  | letterSpacing => "letter-spacing"
  | textAlign => "text-align"
  | textTransform => "text-transform"
  | textDecoration => "text-decoration"

/-- The field with a name.  Blanks around the name and ASCII case do not matter, and underscores
count as hyphens. -/
def parse? (s : String) : Option FontField :=
  let spelled := (Text.lower (Text.trim s)).toList.map fun c => if c == '_' then '-' else c
  all.find? fun f => f.name.toList == spelled

/-- The unit that a field carries where none is configured.  Only sizes and letter spacings carry
one. -/
def unit? : FontField → Option String
  | fontSize => some "px"
  | letterSpacing => some "em"
  | _ => none

theorem mem_all (f : FontField) : f ∈ all := by
  cases f <;> decide

theorem nodup_all : all.Nodup := by
  decide

end FontField

/-- A table over the font fields, in which fields may be missing. -/
abbrev FontTable (α : Type) := FontField → Option α

namespace FontTable

variable {α : Type}

/-- The table without any field. -/
def empty : FontTable α := fun _ => none

/-- Sets a field; what it held before is lost. -/
def set (t : FontTable α) (f : FontField) (a : α) : FontTable α :=
  fun g => if g = f then some a else t g

/-- The fields that a table has, in canonical order. -/
def toList (t : FontTable α) : List (FontField × α) :=
  FontField.all.filterMap fun f => (t f).map (f, ·)

/-- Whether no field is there. -/
def isEmpty (t : FontTable α) : Bool := t.toList.isEmpty

@[simp] theorem set_self (t : FontTable α) (f : FontField) (a : α) : t.set f a f = some a :=
  if_pos rfl

theorem set_of_ne (t : FontTable α) {f g : FontField} (a : α) (h : g ≠ f) : t.set f a g = t g :=
  if_neg h

theorem mem_toList {t : FontTable α} {f : FontField} {a : α} :
    (f, a) ∈ t.toList ↔ t f = some a := by
  rw [toList, List.mem_filterMap]
  constructor
  · rintro ⟨g, -, hg⟩
    obtain ⟨b, hb, hp⟩ := Option.map_eq_some_iff.1 hg
    cases hp
    exact hb
  · intro h
    exact ⟨f, FontField.mem_all f, by rw [h]; rfl⟩

theorem isEmpty_iff {t : FontTable α} : t.isEmpty = true ↔ ∀ f, t f = none := by
  rw [isEmpty, List.isEmpty_iff, List.eq_nil_iff_forall_not_mem]
  constructor
  · intro h f
    cases hf : t f with
    | none => rfl
    | some a => exact absurd (mem_toList.2 hf) (h (f, a))
  · rintro h ⟨f, a⟩ hm
    rw [mem_toList, h f] at hm
    cases hm

end FontTable

/-- How one font field of an option is offered. -/
structure FontFieldSpec where
  /-- A field that is switched off is never emitted, even if it has a value. -/
  enabled : Bool := true
  min : Option Float := none
  max : Option Float := none
  step : Option Float := none
  unit : Option String := none

end ThemeOptions
