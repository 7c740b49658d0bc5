import ThemeOptions.Yaml.Core

/-!
# Writing YAML

`write` puts a document on lines of their own as far as it goes: mappings and sequences are block
collections unless they are empty, and a sequence stands in the column of its key.  A text is plain
if it then reads back as the same text, a literal if it has several lines, and quoted otherwise.
-/

namespace ThemeOptions.Yaml

/-- The characters that stand for themselves in a written text. -/
def isPrintable (c : Char) : Bool :=
  let n := c.toNat
  n == 0x0a || (0x20 ≤ n && n ≤ 0x7e) || (0xa0 ≤ n && n ≤ 0xd7ff) ||
    (0xe000 ≤ n && n ≤ 0xfffd && n != 0xfeff) || 0x10000 ≤ n

/-- Whether two neighbours in a text are of two kinds. -/
def hasPair (p q : Char → Bool) : List Char → Bool
  | c :: d :: cs => (p c && q d) || hasPair p q (d :: cs)
  | _ => false

/-- Whether a character behind the first one would make a plain text something else. -/
def hasInnerMark : List Char → Bool
  | c :: d :: cs =>
    (d == ':' && isGap cs.head?) || (d == '#' && isGap (some c)) || hasInnerMark (d :: cs)
  | _ => false

/-- Whether the start of a text would make a plain text something else. -/
def hasLeadingMark (cs : List Char) : Bool :=
  match cs with
  | [] => false
  | c :: rest =>
    cs.take 3 == ['-', '-', '-'] || cs.take 3 == ['.', '.', '.'] ||
      if c == '?' || c == ':' || c == '-' then isGap rest.head?
      else "#,[]&*!|>'\"%@".toList.contains c || c == '\x7b' || c == '\x7d' || c == '\x60'

/-- Whether a text may be written between single quotes. -/
def fitsSingleQuotes (cs : List Char) : Bool :=
  cs.all isPrintable && !hasPair (· == ' ') isBreak cs && !hasPair isBreak (· == ' ') cs

/-- Whether a text may be written without quotes on one line. -/
def fitsPlain (cs : List Char) : Bool :=
  let edge (c : Option Char) := c == some ' '
  fitsSingleQuotes cs && !cs.any isBreak && !edge cs.head? && !edge cs.getLast? &&
    !hasLeadingMark cs && !hasInnerMark cs

/-- Whether a text may be written as a literal. -/
def fitsLiteral (cs : List Char) : Bool :=
  !cs.isEmpty && cs.all isPrintable && !hasPair (· == ' ') isBreak cs && cs.getLast? != some ' '

/-- Whether a plain text would be read as something else than a text. -/
def needsQuotes (s : String) : Bool :=
  match resolve s with
  | .ok (.string _) => hasNeedlessZero s.toList
  | _ => true

/-- The style of a text; as a key on the line of its value it cannot be a literal. -/
def styleOf (key : Bool) (s : String) : Style :=
  let cs := s.toList
  if cs.contains '\n' then if fitsLiteral cs && !key then .literal else .doubleQuoted
  else if !needsQuotes s && fitsPlain cs then .plain
  else if fitsSingleQuotes cs then .singleQuoted
  else .doubleQuoted

/-- Blanks at the start of a line. -/
def spaces (n : Nat) : List Char := List.replicate n ' '

/-- The characters between single quotes; a line after the first is indented. -/
def singleQuoted (indent : Nat) : Bool → List Char → List Char
  | broken, [] => if broken then spaces indent else []
  | broken, c :: cs =>
    if isBreak c then c :: singleQuoted indent true cs
    else
      (if broken then spaces indent else []) ++ (if c == '\'' then ['\'', '\''] else [c]) ++
        singleQuoted indent false cs

/-- A number in hexadecimal, with this many digits. -/
def hexText (width n : Nat) : List Char :=
  let digits := (Nat.toDigits 16 n).map Char.toUpper
  List.replicate (width - digits.length) '0' ++ digits

/-- The letters of escapes that are written. -/
def escapeLetters : List (Char × Char) :=
  [('\x00', '0'), ('\x07', 'a'), ('\x08', 'b'), ('\t', 't'), ('\n', 'n'), ('\x0b', 'v'),
    ('\x0c', 'f'), ('\r', 'r'), ('\x1b', 'e'), ('"', '"'), ('\\', '\\'), ('\x85', 'N'),
    ('\u2028', 'L'), ('\u2029', 'P')]

/-- A character between double quotes. -/
def doubleQuoted (c : Char) : List Char :=
  match escapeLetters.lookup c with
  | some letter => ['\\', letter]
  | none =>
    let n := c.toNat
    if isPrintable c then [c]
    else if n ≤ 0xff then '\\' :: 'x' :: hexText 2 n
    else if n ≤ 0xffff then '\\' :: 'u' :: hexText 4 n
    else '\\' :: 'U' :: hexText 8 n

/-- The lines of a literal, of which those that are not empty are indented. -/
def literalLines (indent : Nat) : Bool → List Char → List Char
  | _, [] => []
  | start, c :: cs =>
    if isBreak c then c :: literalLines indent true cs
    else (if start then spaces indent else []) ++ c :: literalLines indent false cs

/-- The mark of a literal, with its indentation if its first line does not show it, and with what
happens to the line breaks at its end. -/
def literalHeader (cs : List Char) : List Char :=
  let hint := if cs.head?.any fun c => c == ' ' || isBreak c then ['2'] else []
  let chomp :=
    match cs.reverse with
    | [] => ['-']
    | c :: before =>
      if !isBreak c then ['-']
      else match before with
        | [] => ['+']
        | d :: _ => if isBreak d then ['+'] else []
  '|' :: hint ++ chomp

/-- A text in its style, with what follows its last line. -/
def textLine (key : Bool) (indent : Nat) (s : String) : List Char :=
  let cs := s.toList
  let ending := if key then [] else ['\n']
  match styleOf key s with
  | .plain => cs ++ ending
  | .singleQuoted => '\'' :: singleQuoted indent false cs ++ '\'' :: ending
  | .literal | .folded =>
    literalHeader cs ++ '\n' :: literalLines indent true cs ++
      (if cs.getLast?.any isBreak then [] else ending)
  | .doubleQuoted => '"' :: cs.flatMap doubleQuoted ++ '"' :: ending

/-- Whether a key stands on one line with the colon behind it: it has one line and is not long. -/
def isShortKey : Document → Bool
  | .string s => !s.toList.any isBreak && s.utf8ByteSize ≤ 128
  | .sequence items => items.isEmpty
  | .mapping pairs => pairs.isEmpty
  | .tagged .. => false
  | _ => true

/-- The characters of a scalar that is no text, or of an empty collection. -/
def atom : Document → List Char
  | .null => "null".toList
  | .bool b => (Document.boolText b).toList
  | .number n => n.text.toList
  | .sequence _ => "[]".toList
  | .mapping _ => ['\x7b', '\x7d']
  | _ => []

/-- A short key. -/
def keyText (indent : Nat) : Document → List Char
  | .string s => textLine true indent s
  | d => atom d

mutual

/-- What follows a colon, a hyphen or a question mark in a collection at this column.  Where it is
`inline`, a collection starts on the same line. -/
def written (indent : Nat) (inline : Bool) : Document → List Char
  | .string s => ' ' :: textLine false (indent + 2) s
  | .mapping (p :: ps) =>
    (if inline then [' '] else '\n' :: spaces (indent + 2)) ++ writtenPairs (indent + 2) (p :: ps)
  | .sequence (d :: ds) =>
    if inline then ' ' :: writtenItems (indent + 2) (d :: ds)
    else '\n' :: spaces indent ++ writtenItems indent (d :: ds)
  | .tagged tag d => ' ' :: '!' :: tag.toList ++ written indent false d
  | d => ' ' :: atom d ++ ['\n']

/-- The pairs of a mapping, of which the first is not indented. -/
def writtenPairs (indent : Nat) : List (Document × Document) → List Char
  | [] => []
  | (k, v) :: rest =>
    (if isShortKey k then keyText indent k ++ ':' :: written indent false v
    else '?' :: written indent true k ++ spaces indent ++ ':' :: written indent true v) ++
      (if rest.isEmpty then [] else spaces indent ++ writtenPairs indent rest)

/-- The items of a sequence, of which the first is not indented. -/
def writtenItems (indent : Nat) : List Document → List Char
  | [] => []
  | d :: rest =>
    '-' :: written indent true d ++
      (if rest.isEmpty then [] else spaces indent ++ writtenItems indent rest)

end

/-- A document as YAML. -/
def write (d : Document) : String :=
  String.ofList <|
    match d with
    | .mapping (p :: ps) => writtenPairs 0 (p :: ps)
    | .sequence (d :: ds) => writtenItems 0 (d :: ds)
    | .string s => textLine false 2 s
    | d => atom d ++ ['\n']

end ThemeOptions.Yaml
