import ThemeOptions.Decimal.Reader
import ThemeOptions.Document.Basic

/-!
# Scalars read loosely

Contribution documents are written by hand, so a scalar is taken for what it was meant to be: a
number counts as text, a text that spells a number counts as a number, and several words switch
something on.  A scalar under a tag counts as none of these.
-/

namespace ThemeOptions.Document

/-- The text of a mapping key: a string or a number. -/
def keyText? : Document → Option String
  | string s => some s
  | number n => some n.text
  | _ => none

/-- The text of a scalar. -/
def text? : Document → Option String
  | string s => some s
  | number n => some n.text
  | bool b => some (boolText b)
  | _ => none

/-- A number, or the one that a text spells between blanks. -/
def number? : Document → Option Float
  | number n => some n.toFloat
  | string s => Decimal.read? (Text.trim s)
  | _ => none

/-- Whether a scalar switches something on: true, a number other than zero, or one of the words for
it. -/
def flag : Document → Bool
  | bool b => b
  | number n => n.toFloat != 0
  | string s => Text.isTruthy s
  | _ => false

/-- The text under the first of the names that is a key. -/
def textUnder (pairs : List (Document × Document)) (names : List String) : Option String :=
  (lookupAny pairs names).bind text?

/-- The number under a name. -/
def numberUnder (pairs : List (Document × Document)) (name : String) : Option Float :=
  (lookup pairs name).bind number?

/-- The unit of a rule or a font field; an empty unit is none. -/
def unitUnder (pairs : List (Document × Document)) : Option String :=
  (textUnder pairs ["unit"]).filter (· != "")

end ThemeOptions.Document
