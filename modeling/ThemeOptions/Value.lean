import ThemeOptions.Css.Fragment
import ThemeOptions.Decimal.Layout
import ThemeOptions.Decimal.Reader
import ThemeOptions.FontField

/-!
# Option values

A `Value` is what an option is set to: nothing, a truth value, a number, a text, or a font, which is
a record of values by field.  An unset value is one that somebody else has to supply.
-/

namespace ThemeOptions

/-- What an option is set to, be it as its default or by a user. -/
inductive Value where
  /-- Somebody else has to supply the value. -/
  | unset
  | bool (value : Bool)
  | number (value : Float)
  | text (value : String)
  | font (fields : FontField → Option Value)

namespace Value

instance : Inhabited Value := ⟨unset⟩

def isUnset : Value → Bool
  | unset => true
  | _ => false

theorem isUnset_iff {v : Value} : v.isUnset = true ↔ v = unset := by
  cases v <;> simp [isUnset]

def isFont : Value → Bool
  | font _ => true
  | _ => false

mutual

/-- A value that emits no CSS: unset, false, a blank text, or a font without a filled field. -/
def isEmpty : Value → Bool
  | unset => true
  | bool b => !b
  | number _ => false
  | text t => Text.blank t
  | font fields => FontField.all.all fun f => isEmptyField (fields f)

/-- A font field that is missing or empty. -/
def isEmptyField : Option Value → Bool
  | none => true
  | some v => v.isEmpty

end

mutual

/-- Whether two values are equal as values: a number without a value equals nothing, and the two
zeros are equal. -/
def same : Value → Value → Bool
  | unset, unset => true
  | bool a, bool b => a == b
  | number a, number b => a == b
  | text a, text b => a == b
  | font a, font b => FontField.all.all fun f => sameField (a f) (b f)
  | _, _ => false

/-- Whether two font fields are both missing or equal. -/
def sameField : Option Value → Option Value → Bool
  | none, none => true
  | some a, some b => same a b
  | _, _ => false

end

/-- A value as a number: a number, or a text that holds one. -/
def number? : Value → Option Float
  | number n => some n
  | text t => if Css.isNumber t then Decimal.read? (Text.trim t) else none
  | _ => none

def text? : Value → Option String
  | text t => some t
  | _ => none

def bool? : Value → Option Bool
  | bool b => some b
  | _ => none

/-- The kind of a value in messages. -/
def typeName : Value → String
  | unset => "unset"
  | bool _ => "bool"
  | number _ => "number"
  | text _ => "text"
  | font _ => "font"

/-- A number in CSS: the fewest digits that read back, without an exponent, and zero without a
sign. -/
def formatNumber (n : Float) : String :=
  if n == 0 then "0" else Decimal.Layout.plain.write n

/-- A value in CSS.  A number, or a text that is one, gets the unit; other texts stand as they are,
without blanks around them. -/
def render (unit : String) : Value → String
  | number n => formatNumber n ++ unit
  | text t => let t := Text.trim t; if Css.isNumber t then t ++ unit else t
  | bool b => if b then "1" else "0"
  | unset => ""
  | font _ => ""

theorem formatNumber_ne_empty (n : Float) : formatNumber n ≠ "" := by
  unfold formatNumber
  split
  · decide
  · refine Decimal.Layout.write_ne_empty (by decide) (fun negative => ?_) n
    cases negative <;> decide

/-- A value that is not empty has a text in CSS, unless it is a font. -/
theorem render_eq_empty_iff {v : Value} (h : v.isEmpty = false) (unit : String) :
    v.render unit = "" ↔ v.isFont = true := by
  cases v with
  | unset => exact absurd h (by simp [isEmpty])
  | bool b =>
    have hb : b = true := by simpa [isEmpty] using h
    subst hb
    simp [render, isFont]
  | number n =>
    have hne : formatNumber n ++ unit ≠ "" := fun he =>
      formatNumber_ne_empty n (String.append_eq_empty_iff.mp he).1
    simp [render, isFont, hne]
  | text t =>
    have hfilled : Text.blank t = false := by simpa [isEmpty] using h
    have hne : Text.trim t ≠ "" := by
      rw [ne_eq, Text.trim_eq_empty_iff, hfilled]
      decide
    have hrender : (text t).render unit ≠ "" := by
      unfold render
      simp only
      split
      · exact fun he => hne (String.append_eq_empty_iff.mp he).1
      · exact hne
    simp [hrender, isFont]
  | font fields => simp [render, isFont]

end Value

end ThemeOptions
