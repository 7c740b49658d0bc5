import ThemeOptions.Text.Blank

/-!
# Kinds of options

The kind of an option is the control by which it is set.  A kind that the library does not know is
kept by name.
-/

namespace ThemeOptions

/-- The control by which an option is set. -/
inductive Kind where
  | checkbox
  | radio
  | select
  | range
  | color
  | font
  /-- Fixed markup, which has no value and emits no CSS. -/
  | html
  | text
  | other (name : String)
deriving DecidableEq, Repr

namespace Kind

/-- The kind with a name.  Blanks around the name and ASCII case do not matter, and any name is a
kind. -/
def parse (s : String) : Kind :=
  match Text.lower (Text.trim s) with
  | "checkbox" => checkbox
  | "radio" => radio
  | "select" => select
  | "range" => range
  | "color" => color
  | "font" => font
  | "html" => html
  | "text" => text
  | name => other name

def name : Kind → String
  | checkbox => "checkbox"
  | radio => "radio"
  | select => "select"
  | range => "range"
  | color => "color"
  | font => "font"
  | html => "html"
  | text => "text"
  | other name => name

def isOther : Kind → Bool
  | other _ => true
  | _ => false

/-- Radio and select options must offer a choice. -/
def requiresChoices : Kind → Bool
  | radio | select => true
  | _ => false

def isStatic : Kind → Bool
  | html => true
  | _ => false

end Kind

end ThemeOptions
