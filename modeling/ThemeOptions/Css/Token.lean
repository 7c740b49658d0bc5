/-!
# CSS tokens

The tokens of CSS Syntax Level 3.  A bracket or a function name is one token here; what it encloses
follows as tokens of its own.
-/

namespace ThemeOptions.Css

/-- The three kinds of brackets. -/
inductive Bracket where
  | round
  | square
  | curly
deriving DecidableEq, Repr

/-- A token of a style sheet.  Names and texts are as escapes spell them; numbers keep the
characters they were written with. -/
inductive Token where
  | ident (name : String)
  | atKeyword (name : String)
  | hash (name : String)
  | quoted (text : String)
  /-- A quoted text that a line break cuts off. -/
  | badString
  | url (text : String)
  | badUrl
  | number (text : String)
  | percentage (text : String)
  | dimension (text unit : String)
  | blanks
  | comment
  | colon
  | semicolon
  | comma
  /-- One of the attribute matchers: this character and an equals sign. -/
  | matcher (c : Char)
  /-- The opening mark of a comment for old browsers. -/
  | htmlOpen
  /-- The closing mark of a comment for old browsers. -/
  | htmlClose
  | delim (c : Char)
  /-- A name with the round bracket that opens its arguments. -/
  | function (name : String)
  | opening (b : Bracket)
  | closing (b : Bracket)
deriving DecidableEq, Repr

namespace Token

/-- Blanks and comments only separate tokens. -/
def isFiller : Token → Bool
  | blanks | comment => true
  | _ => false

/-- The bracket that a token opens. -/
def opens? : Token → Option Bracket
  | opening b => some b
  | function _ => some .round
  | _ => none

/-- The bracket that a token closes. -/
def closes? : Token → Option Bracket
  | closing b => some b
  | _ => none

end Token

end ThemeOptions.Css
