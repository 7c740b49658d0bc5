import ThemeOptions.Css.Lexer
import ThemeOptions.Text.Blank

/-!
# CSS fragments

Checks of the pieces of text from which a style sheet is put together: property names, selectors and
numbers.  They look at the tokens outside all brackets.  They are no full check of CSS; they find
what would break the style sheet around the fragment.
-/

namespace ThemeOptions.Css

/-- The tokens outside all brackets, inside which this stack of brackets is open.  A closing bracket
closes the innermost open one if it is of the same kind, and otherwise closes nothing; what the end
of the text leaves open is closed there.  Blanks and comments are dropped. -/
def outside : List Bracket → List Token → List Token
  | _, [] => []
  | [], t :: ts => if t.isFiller then outside [] ts else t :: outside t.opens?.toList ts
  | b :: stack, t :: ts =>
    match t.opens? with
    | some b' => outside (b' :: b :: stack) ts
    | none => outside (if t.closes? = some b then stack else b :: stack) ts

/-- The tokens of a text outside all brackets, without blanks and comments: a bracket or a function
stands for all it encloses. -/
def topLevel (s : String) : List Token :=
  outside [] (tokens s)

/-- A property name is one name and nothing else. -/
def isProperty (property : String) : Bool :=
  match topLevel (Text.trim property) with
  | [.ident _] => true
  | _ => false

/-- A text that is one number and nothing else. -/
def isNumber (s : String) : Bool :=
  match topLevel (Text.trim s) with
  | [.number _] => true
  | _ => false

/-- What is wrong with a selector list. -/
inductive SelectorProblem where
  | blank
  | emptyItem
  /-- A token that would end the rule, or a bracket that closes nothing. -/
  | unexpected (t : Token)
  /-- A quoted text or an address that is cut off. -/
  | unterminated
  | trailingComma
deriving DecidableEq, Repr

/-- What a token does that no selector may hold: end the rule, close what is not open, or cut off a
text. -/
def Token.breaks? : Token → Option SelectorProblem
  | opening .curly => some (.unexpected (.opening .curly))
  | closing b => some (.unexpected (.closing b))
  | semicolon => some (.unexpected .semicolon)
  | badString => some .unterminated
  | badUrl => some .unterminated
  | _ => none

/-- The first problem among the tokens of a selector list; `started` says whether the item before
them has a token already. -/
def scanSelector : Bool → List Token → Option SelectorProblem
  | started, [] => if started then none else some .trailingComma
  | started, t :: ts =>
    if t = .comma then if started then scanSelector false ts else some .emptyItem
    else match t.breaks? with
      | some problem => some problem
      | none => scanSelector true ts

/-- The first problem of a selector list in reading order. -/
def selectorProblem? (selector : String) : Option SelectorProblem :=
  if Text.blank selector then some .blank
  else scanSelector false (topLevel selector)

/-- The name of a token in a message about it. -/
def Token.shown : Token → String
  | opening .curly => "CurlyBracketBlock"
  | closing .curly => "CloseCurlyBracket"
  | closing .round => "CloseParenthesis"
  | closing .square => "CloseSquareBracket"
  | semicolon => "Semicolon"
  | _ => "token"

/-- The message about a problem of this selector. -/
def SelectorProblem.message (selector : String) : SelectorProblem → String
  | blank => "selector is empty"
  | emptyItem => "invalid selector '" ++ selector ++ "': empty item in selector list"
  | unexpected t => "invalid selector '" ++ selector ++ "': unexpected " ++ t.shown
  | unterminated => "invalid selector '" ++ selector ++ "': unterminated string"
  | trailingComma => "invalid selector '" ++ selector ++ "': trailing comma"

/-- The message about a text that is no property name. -/
def propertyMessage (property : String) : String :=
  "'" ++ property ++ "' is not a valid CSS property name"

end ThemeOptions.Css
