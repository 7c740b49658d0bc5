import ThemeOptions.Keyed
import ThemeOptions.Kind
import ThemeOptions.Value

/-!
# Options

An `Entry` describes one option: how it is offered, what its default is, and which CSS it emits.  An
entry may lack what its kind asks for; that is a finding of the structural check and not an error.
-/

namespace ThemeOptions

/-- The limits of a slider. -/
structure Bounds where
  min : Float
  max : Float
  step : Float

/-- What is wrong with the limits of a slider. -/
inductive BoundsProblem where
  | notAscending
  | noStep
deriving DecidableEq, Repr

namespace Bounds

/-- The lower limit has to be less than the upper one, and the step more than zero.  A limit without
a value is never in order. -/
def problem? (b : Bounds) : Option BoundsProblem :=
  if !(b.min < b.max) then some .notAscending
  else if !(b.step > 0) then some .noStep
  else none

/-- The message about a problem of these limits. -/
def message (b : Bounds) : BoundsProblem → String
  | .notAscending =>
    "min (" ++ Decimal.Layout.plain.write b.min ++ ") must be lower than max (" ++
      Decimal.Layout.plain.write b.max ++ ")"
  | .noStep => "step (" ++ Decimal.Layout.plain.write b.step ++ ") must be greater than zero"

/-- Whether the limits are equal as numbers. -/
def same (a b : Bounds) : Bool :=
  a.min == b.min && a.max == b.max && a.step == b.step

end Bounds

/-- What one CSS declaration of an option is made from.  With a callback the property may be blank,
since the transform of that name supplies it. -/
structure Rule where
  property : String
  /-- Selectors as they are written, with commas between them. -/
  selector : String
  unit : Option String := none
  /-- The transform that the value goes through. -/
  callback : Option String := none
deriving DecidableEq, Repr

namespace Rule

/-- The unit, empty if there is none. -/
def unitText (r : Rule) : String := r.unit.getD ""

/-- The name of the transform, without blanks around it; a blank name is none. -/
def transform? (r : Rule) : Option String :=
  match r.callback with
  | some name => if Text.blank name then none else some (Text.trim name)
  | none => none

end Rule

/-- Choices of an option: values with their labels, in order. -/
abbrev Choices := Keyed (String × String) Prod.fst

/-- One option. -/
structure Entry where
  id : String
  kind : Option Kind := none
  label : String := ""
  description : String := ""
  /-- None if no default is declared; unset if somebody else has to supply it. -/
  default : Option Value := none
  choices : Choices := Keyed.empty
  bounds : Option Bounds := none
  rules : List Rule := []
  /-- Whether a preview can follow a change without loading the page again. -/
  live : Bool := false
  /-- Where a font is emitted. -/
  selector : Option String := none
  /-- How the font fields are offered; none if nothing is said of any. -/
  fieldSpecs : Option (FontTable FontFieldSpec) := none
  recommended : List String := []
  html : Option String := none
  /-- The name of the condition under which the option is shown. -/
  activeWhen : Option String := none

/-- Whether two optional things are both missing or related. -/
def sameOption {α : Type} (same : α → α → Bool) : Option α → Option α → Bool
  | none, none => true
  | some a, some b => same a b
  | _, _ => false

/-- Whether two font fields are offered in the same way. -/
def FontFieldSpec.same (a b : FontFieldSpec) : Bool :=
  a.enabled == b.enabled && sameOption (· == ·) a.min b.min && sameOption (· == ·) a.max b.max &&
    sameOption (· == ·) a.step b.step && a.unit == b.unit

/-- Whether two tables offer every font field in the same way. -/
def FontTable.same (a b : FontTable FontFieldSpec) : Bool :=
  FontField.all.all fun f => sameOption FontFieldSpec.same (a f) (b f)

namespace Entry

instance : Inhabited Entry := ⟨{ id := "" }⟩

/-- How the font fields are offered. -/
def fontFields (e : Entry) : FontTable FontFieldSpec := e.fieldSpecs.getD FontTable.empty

/-- Whether two entries say the same: numbers are compared as numbers, and the order of choices does
not matter. -/
def same (a b : Entry) : Bool :=
  a.id == b.id && a.kind == b.kind && a.label == b.label && a.description == b.description &&
    sameOption Value.same a.default b.default && a.choices.agrees (· == ·) b.choices &&
    sameOption Bounds.same a.bounds b.bounds && a.rules == b.rules && a.live == b.live &&
    a.selector == b.selector && sameOption FontTable.same a.fieldSpecs b.fieldSpecs &&
    a.recommended == b.recommended && a.html == b.html && a.activeWhen == b.activeWhen

def isFont (e : Entry) : Bool := e.kind == some .font

def isStatic (e : Entry) : Bool := e.kind == some .html

/-- Whether the default is left for somebody else to supply. -/
def hasUnsetDefault (e : Entry) : Bool :=
  match e.default with
  | some .unset => true
  | _ => false

/-- The declared default, or else what the kind falls back to: a checkbox is off, a range is at its
lower limit, and everything else is an empty text.  An unset default stays unset. -/
def effectiveDefault (e : Entry) : Value :=
  match e.default with
  | some v => v
  | none =>
    match e.kind with
    | some .checkbox => .bool false
    | some .range => .number ((e.bounds.map Bounds.min).getD 0)
    | _ => .text ""

/-- Where a font is emitted: at its own selector, or else at that of its first rule.  A blank
selector is none. -/
def fontSelector? (e : Entry) : Option String :=
  match e.selector.or (e.rules.head?.map Rule.selector) with
  | some s => if Text.blank s then none else some s
  | none => none

/-- Whether there is any CSS to emit. -/
def emitsCss (e : Entry) : Bool :=
  match e.kind with
  | some .html => false
  | some .font => e.fontSelector?.isSome
  | _ => !e.rules.isEmpty

/-- A font field is emitted unless it is switched off. -/
def enables (e : Entry) (f : FontField) : Bool :=
  match e.fontFields f with
  | some spec => spec.enabled
  | none => true

/-- The unit of a font field: the one configured, or else its own.  A field that carries no unit of
its own never has one. -/
def fontUnit (e : Entry) (f : FontField) : String :=
  match f.unit? with
  | none => ""
  | some own => ((e.fontFields f).bind FontFieldSpec.unit).getD own

/-- Declares a default, or none. -/
def withDefault (e : Entry) (v : Option Value) : Entry := { e with default := v }

/-- Adds a choice unless its value is there. -/
def addChoice (e : Entry) (value label : String) : Entry :=
  { e with choices := e.choices.insert (value, label) }

/-- Says how a font field is offered. -/
def setFontField (e : Entry) (f : FontField) (spec : FontFieldSpec) : Entry :=
  { e with fieldSpecs := some (e.fontFields.set f spec) }

@[simp] theorem id_withDefault (e : Entry) (v : Option Value) : (e.withDefault v).id = e.id := rfl

theorem hasUnsetDefault_iff {e : Entry} : e.hasUnsetDefault = true ↔ e.default = some .unset := by
  unfold hasUnsetDefault
  split <;> simp_all

theorem hasUnsetDefault_withDefault (e : Entry) (v : Value) :
    (e.withDefault (some v)).hasUnsetDefault = v.isUnset := by
  cases v <;> rfl

end Entry

end ThemeOptions
