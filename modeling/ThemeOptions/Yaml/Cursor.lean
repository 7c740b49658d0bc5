/-!
# Places in a YAML text

A `Cursor` is what is left of a text together with the line and the column at which it starts.
-/

namespace ThemeOptions.Yaml

/-- What is left of a text, and where it starts: how many octets and lines come before it, and how
many characters on its line. -/
structure Cursor where
  rest : List Char
  index : Nat := 0
  line : Nat := 0
  column : Nat := 0

/-- The characters that end a line. -/
def isBreak (c : Char) : Bool :=
  c == '\n' || c == '\r' || c == '\x85' || c == '\u2028' || c == '\u2029'

/-- Blanks inside a line. -/
def isBlank (c : Char) : Bool := c == ' ' || c == '\t'

/-- A blank, a line break or the end of the text. -/
def isGap : Option Char → Bool
  | some c => isBlank c || isBreak c
  | none => true

/-- A line break or the end of the text. -/
def isLineEnd : Option Char → Bool
  | some c => isBreak c
  | none => true

/-- The characters of anchors, handles and directive names. -/
def isWordChar (c : Char) : Bool := c.isAlphanum || c == '_' || c == '-'

/-- What a line break stands for in a scalar: a line feed, except that the separators of Unicode
stand for themselves. -/
def breakChar (c : Char) : Char :=
  if c == '\u2028' || c == '\u2029' then c else '\n'

/-- How many octets characters take. -/
def octetCount (cs : List Char) : Nat := cs.foldr (fun c n => c.utf8Size + n) 0

@[simp] theorem octetCount_append (cs ds : List Char) :
    octetCount (cs ++ ds) = octetCount cs + octetCount ds := by
  induction cs with
  | nil => simp [octetCount]
  | cons c rest ih =>
    have step : ∀ es, octetCount (c :: es) = c.utf8Size + octetCount es := fun _ => rfl
    rw [List.cons_append, step, step, ih, Nat.add_assoc]

namespace Cursor

/-- The first character. -/
def head? (c : Cursor) : Option Char := c.rest.head?

/-- The character after `n` others. -/
def at? (c : Cursor) (n : Nat) : Option Char := c.rest[n]?

/-- Past this many characters of the line. -/
def skip (n : Nat) (c : Cursor) : Cursor :=
  { c with
    rest := c.rest.drop n
    index := c.index + octetCount (c.rest.take n)
    column := c.column + n }

/-- Past the first character. -/
def next (c : Cursor) : Cursor := c.skip 1

/-- Past a line break; a return with a line feed is one. -/
def nextLine (c : Cursor) : Cursor :=
  let n :=
    match c.rest with
    | '\r' :: '\n' :: _ => 2
    | _ => 1
  { rest := c.rest.drop n
    index := c.index + octetCount (c.rest.take n)
    line := c.line + 1
    column := 0 }

/-- The leading characters of a kind, and what follows them. -/
def span (p : Char → Bool) (c : Cursor) : List Char × Cursor :=
  let cs := c.rest.takeWhile p
  (cs, c.skip cs.length)

/-- Past the leading characters of a kind. -/
def skipWhile (p : Char → Bool) (c : Cursor) : Cursor := (c.span p).2

/-- Past everything up to the end of the line. -/
def skipLine (c : Cursor) : Cursor := c.skipWhile fun ch => !isBreak ch

/-- Past a comment, if one starts here. -/
def skipComment (c : Cursor) : Cursor :=
  if c.head? == some '#' then c.skipLine else c

/-- Whether three of this character and a gap stand at the start of a line. -/
def atMark (c : Cursor) (ch : Char) : Bool :=
  c.column == 0 && c.rest.take 3 == [ch, ch, ch] && isGap (c.at? 3)

/-- Whether a mark between documents stands here. -/
def atDocumentMark (c : Cursor) : Bool := c.atMark '-' || c.atMark '.'

end Cursor

end ThemeOptions.Yaml
