import ThemeOptions.Yaml.Cursor
import ThemeOptions.Yaml.Error
import ThemeOptions.Yaml.Token

/-!
# The scalars of a YAML text

Reads plain, quoted and block scalars.  In plain and quoted scalars a single line break stands for a
blank, and of several the first is dropped; a literal keeps all of them.
-/

namespace ThemeOptions.Yaml

/-- Blanks and line breaks inside a scalar. -/
structure Gap where
  /-- The blanks, as long as there is no line break. -/
  blanks : List Char := []
  /-- The first line break. -/
  first : List Char := []
  /-- The line breaks after it. -/
  more : List Char := []
  /-- Whether a line has ended. -/
  broken : Bool := false

namespace Gap

/-- Line breaks as text: a lone line feed is a blank, and of several the first is dropped. -/
def fold (first more : List Char) : List Char :=
  if first == ['\n'] then if more.isEmpty then [' '] else more
  else first ++ more

/-- What a gap stands for. -/
def text (g : Gap) : List Char :=
  if g.broken then fold g.first g.more else g.blanks

/-- Reads on in a gap.  A tab that opens a line before column `limit` is refused. -/
def read (limit : Int) : Nat → Gap → Cursor → Except Error (Gap × Cursor)
  | 0, g, c => .ok (g, c)
  | fuel + 1, g, c =>
    match c.head? with
    | none => .ok (g, c)
    | some ch =>
      if isBlank ch then
        if g.broken then
          if ch == '\t' && (c.column : Int) < limit then .error .tabIndentation
          else read limit fuel g c.next
        else read limit fuel { g with blanks := g.blanks ++ [ch] } c.next
      else if isBreak ch then
        if g.broken then read limit fuel { g with more := g.more ++ [breakChar ch] } c.nextLine
        else read limit fuel { first := [breakChar ch], broken := true } c.nextLine
      else .ok (g, c)

end Gap

/-- The brackets and the comma, which end a plain scalar inside a flow collection. -/
def isFlowIndicator (c : Char) : Bool :=
  c == ',' || c == '[' || c == ']' || c == '\x7b' || c == '\x7d'

/-- The characters of a plain scalar up to a gap, or up to what ends it. -/
def plainWord (flow : Bool) : List Char → Except Error (List Char)
  | [] => .ok []
  | c :: cs =>
    if isBlank c || isBreak c then .ok []
    else if flow && c == ':' && cs.head?.any fun d => isFlowIndicator d || d == '?' then
      .error .colonInFlow
    else if (c == ':' && isGap cs.head?) || (flow && isFlowIndicator c) then .ok []
    else (plainWord flow cs).map (c :: ·)

/-- Reads on in a plain scalar behind a gap: its text, whether a line has ended behind it, and where
it ends.  Outside flow collections its lines start at column `indent` or later. -/
def readPlain (flow : Bool) (indent : Int) :
    Nat → List Char → Gap → Cursor → Except Error (List Char × Bool × Cursor)
  | 0, text, g, c => .ok (text, g.broken, c)
  | fuel + 1, text, g, c => do
    if c.atDocumentMark || c.head? == some '#' then return (text, g.broken, c)
    let word ← plainWord flow c.rest
    if word.isEmpty then return (text, g.broken, c)
    let text := text ++ g.text ++ word
    let c := c.skip word.length
    if c.head?.isNone || !isGap c.head? then return (text, false, c)
    let (g, c) ← Gap.read indent (c.rest.length + 1) {} c
    if !flow && (c.column : Int) < indent then return (text, g.broken, c)
    readPlain flow indent fuel text g c

/-- The escapes that stand for one character. -/
def escapes : List (Char × Char) :=
  [('0', '\x00'), ('a', '\x07'), ('b', '\x08'), ('t', '\t'), ('\t', '\t'), ('n', '\n'),
    ('v', '\x0b'), ('f', '\x0c'), ('r', '\r'), ('e', '\x1b'), (' ', ' '), ('"', '"'), ('/', '/'),
    ('\\', '\\'), ('N', '\x85'), ('_', '\xa0'), ('L', '\u2028'), ('P', '\u2029')]

/-- How many hexadecimal digits follow an escape. -/
def escapeWidth? : Char → Option Nat
  | 'x' => some 2
  | 'u' => some 4
  | 'U' => some 8
  | _ => none

/-- The value of a hexadecimal digit. -/
def hexDigit? (c : Char) : Option Nat :=
  if c.isDigit then some (c.toNat - 48)
  else if 'a' ≤ c && c ≤ 'f' then some (c.toNat - 87)
  else if 'A' ≤ c && c ≤ 'F' then some (c.toNat - 55)
  else none

/-- The number that hexadecimal digits spell. -/
def hexNumber? (cs : List Char) : Option Nat :=
  cs.foldl (fun n c => n.bind fun n => (hexDigit? c).map fun d => 16 * n + d) (some 0)

/-- The character of an escape, and how many characters the escape takes behind its backslash. -/
def readEscape (cs : List Char) : Except Error (Char × Nat) :=
  match cs with
  | [] => .error .badEscape
  | c :: rest =>
    match escapes.lookup c, escapeWidth? c with
    | some escaped, _ => .ok (escaped, 1)
    | none, none => .error .badEscape
    | none, some width =>
      let digits := rest.take width
      match hexNumber? digits with
      | some n =>
        if digits.length == width && n.isValidChar then .ok (Char.ofNat n, width + 1)
        else .error .badEscape
      | none => .error .badEscape

/-- The characters of a quoted scalar up to a gap or to the closing quote; the flag says that an
escaped line break ended them. -/
def readQuotedWord (quote : Char) :
    Nat → List Char → Cursor → Except Error (List Char × Bool × Cursor)
  | 0, text, c => .ok (text, false, c)
  | fuel + 1, text, c =>
    match c.rest with
    | [] => .ok (text, false, c)
    | ch :: cs =>
      if isBlank ch || isBreak ch then .ok (text, false, c)
      else if ch == quote then
        if quote == '\'' && cs.head? == some '\'' then
          readQuotedWord quote fuel (text ++ ['\'']) (c.skip 2)
        else .ok (text, false, c)
      else if quote == '"' && ch == '\\' then
        if cs.head?.any isBreak then .ok (text, true, c.next.nextLine)
        else match readEscape cs with
          | .ok (escaped, n) => readQuotedWord quote fuel (text ++ [escaped]) (c.skip (n + 1))
          | .error e => .error e
      else readQuotedWord quote fuel (text ++ [ch]) c.next

/-- Reads on in a quoted scalar up to its closing quote. -/
def readQuoted (quote : Char) : Nat → List Char → Cursor → Except Error (List Char × Cursor)
  | 0, _, _ => .error .unclosedQuote
  | fuel + 1, text, c => do
    if c.atDocumentMark then throw .markInQuotes
    if c.rest.isEmpty then throw .unclosedQuote
    let (word, escaped, c) ← readQuotedWord quote (c.rest.length + 1) [] c
    let text := text ++ word
    if c.head? == some quote then return (text, c.next)
    let (g, c) ← Gap.read 0 (c.rest.length + 1) { broken := escaped } c
    readQuoted quote fuel (text ++ g.text) c

/-- What happens to the line breaks at the end of a block scalar. -/
inductive Chomping where
  | strip
  | clip
  | keep
deriving DecidableEq, Repr

/-- The chomping that a character asks for. -/
def chomping? : Char → Option Chomping
  | '-' => some .strip
  | '+' => some .keep
  | _ => none

/-- The header of a block scalar: its chomping and its indentation, if given, in either order. -/
def readBlockHeader (c : Cursor) : Except Error (Chomping × Nat × Cursor) := do
  let chomp (c : Cursor) : Option Chomping × Cursor :=
    match c.head?.bind chomping? with
    | some k => (some k, c.next)
    | none => (none, c)
  let digit (c : Cursor) : Except Error (Nat × Cursor) :=
    match c.head? with
    | some d =>
      if d == '0' then .error .badBlockHeader
      else if d.isDigit then .ok (d.toNat - 48, c.next)
      else .ok (0, c)
    | none => .ok (0, c)
  let (first, c) := chomp c
  let (indent, c) ← digit c
  let (second, c) := if first.isNone && indent != 0 then chomp c else (none, c)
  return ((first.or second).getD .clip, indent, c)

/-- Reads the empty lines and the indentation before a line of a block scalar: the line breaks, the
widest indentation among them, and where the line starts.  With an indentation of zero all blanks
belong to it. -/
def readIndentation (indent : Nat) :
    Nat → Nat → List Char → Cursor → Except Error (Nat × List Char × Cursor)
  | 0, widest, breaks, c => .ok (widest, breaks, c)
  | fuel + 1, widest, breaks, c =>
    let spaces := (c.rest.takeWhile (· == ' ')).length
    let c := c.skip (if indent == 0 then spaces else min spaces (indent - c.column))
    let widest := max widest c.column
    match c.head? with
    | none => .ok (widest, breaks, c)
    | some ch =>
      if (indent == 0 || c.column < indent) && ch == '\t' then .error .tabIndentation
      else if isBreak ch then
        readIndentation indent fuel widest (breaks ++ [breakChar ch]) c.nextLine
      else .ok (widest, breaks, c)

/-- What a block scalar holds so far. -/
structure BlockText where
  text : List Char := []
  /-- The break at the end of the last line. -/
  lineBreak : List Char := []
  /-- The empty lines behind it. -/
  emptyLines : List Char := []
  /-- Whether the last line starts with a blank. -/
  indented : Bool := false

/-- Adds a line to a block scalar.  Between two lines of a folded one that do not start with a
blank, breaks are folded. -/
def BlockText.addLine (folded : Bool) (b : BlockText) (line lineBreak : List Char) : BlockText :=
  let indented := line.head?.any isBlank
  let joined :=
    if folded && b.lineBreak == ['\n'] && !b.indented && !indented then
      if b.emptyLines.isEmpty then [' '] else b.emptyLines
    else b.lineBreak ++ b.emptyLines
  { text := b.text ++ joined ++ line, lineBreak, indented }

/-- Reads on in a block scalar as long as lines start at its indentation. -/
def readBlockLines (folded : Bool) (indent : Nat) :
    Nat → BlockText → Cursor → Except Error (BlockText × Cursor)
  | 0, b, c => .ok (b, c)
  | fuel + 1, b, c => do
    if c.column != indent || c.rest.isEmpty then return (b, c)
    let (line, c) := c.span fun ch => !isBreak ch
    let (lineBreak, c) :=
      match c.head? with
      | some ch => ([breakChar ch], c.nextLine)
      | none => ([], c)
    let b := b.addLine folded line lineBreak
    let (_, breaks, c) ← readIndentation indent (c.rest.length + 1) 0 [] c
    readBlockLines folded indent fuel { b with emptyLines := breaks } c

/-- A block scalar behind its mark, inside a collection that starts at column `parent`. -/
def readBlock (folded : Bool) (parent : Int) (c : Cursor) : Except Error (List Char × Cursor) := do
  let (chomping, given, c) ← readBlockHeader c
  let c := (c.skipWhile isBlank).skipComment
  if !isLineEnd c.head? then throw .badBlockHeader
  let c := if c.rest.isEmpty then c else c.nextLine
  let fuel := c.rest.length + 1
  let base := if given == 0 then 0 else (max parent 0).toNat + given
  let (widest, breaks, c) ← readIndentation base fuel 0 [] c
  let indent := if base == 0 then max widest (max (parent + 1).toNat 1) else base
  let (b, c) ← readBlockLines folded indent fuel { emptyLines := breaks } c
  let tail :=
    match chomping with
    | .strip => []
    | .clip => b.lineBreak
    | .keep => b.lineBreak ++ b.emptyLines
  return (b.text ++ tail, c)

end ThemeOptions.Yaml
