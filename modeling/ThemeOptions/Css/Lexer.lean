import ThemeOptions.Css.Token

/-!
# Reading CSS tokens

`tokens` cuts a text into tokens.  What the end of the text leaves open is closed there: quoted
texts, comments and addresses.  The recursions run over the characters of the text and skip those
that a longer piece, such as an escape, has taken.
-/

namespace ThemeOptions.Css

/-- The character that stands for one that cannot be shown. -/
def replacement : Char := '\uFFFD'

def isLineBreak (c : Char) : Bool := c == '\n' || c == '\r' || c == '\x0c'

def isSpace (c : Char) : Bool := c == ' ' || c == '\t' || isLineBreak c

def isHex (c : Char) : Bool :=
  c.isDigit || ('a' ≤ c && c ≤ 'f') || ('A' ≤ c && c ≤ 'F')

/-- A character with which a name starts. -/
def isNameStart (c : Char) : Bool :=
  c.isAlpha || c == '_' || c == '\x00' || 128 ≤ c.toNat

/-- A character inside a name. -/
def isNameChar (c : Char) : Bool :=
  isNameStart c || c.isDigit || c == '-'

/-- Whether a line break comes first. -/
def startsWithLineBreak : List Char → Bool
  | c :: _ => isLineBreak c
  | [] => false

/-- Whether a digit comes first. -/
def startsWithDigit : List Char → Bool
  | c :: _ => c.isDigit
  | [] => false

/-- What follows the first line break, for which a return and a line feed count as one. -/
def dropLineBreak : List Char → List Char
  | '\r' :: '\n' :: cs => cs
  | _ :: cs => cs
  | [] => []

/-- The value of hexadecimal digits. -/
def hexValue (ds : List Char) : Nat :=
  ds.foldl (fun n d =>
    16 * n + if d.isDigit then d.toNat - 48 else if 'a' ≤ d then d.toNat - 87 else d.toNat - 55) 0

/-- The character with this number, or the replacement if there is none or it is zero. -/
def charOfCode (n : Nat) : Char :=
  if n.isValidChar && n != 0 then Char.ofNat n else replacement

/-- The character that an escape spells, and what follows the escape; the text starts behind the
backslash.  Up to six hexadecimal digits take one blank behind them along. -/
def takeEscape (cs : List Char) : Char × List Char :=
  match cs with
  | [] => (replacement, [])
  | c :: rest =>
    if isHex c then
      let ds := (cs.take 6).takeWhile isHex
      let after := cs.drop ds.length
      let after :=
        match after with
        | d :: more => if isLineBreak d then dropLineBreak after
          else if isSpace d then more else after
        | [] => []
      (charOfCode (hexValue ds), after)
    else if c == '\x00' then (replacement, rest)
    else (c, rest)

/-- The name at the start of a text, past `skip` characters, and what follows it. -/
def takeName : Nat → List Char → List Char × List Char
  | _, [] => ([], [])
  | skip + 1, _ :: cs => takeName skip cs
  | 0, c :: cs =>
    if c == '\\' then
      if startsWithLineBreak cs then ([], c :: cs)
      else
        let (escaped, after) := takeEscape cs
        let (name, rest) := takeName (cs.length - after.length) cs
        (escaped :: name, rest)
    else if isNameChar c then
      let (name, rest) := takeName 0 cs
      ((if c == '\x00' then replacement else c) :: name, rest)
    else ([], c :: cs)

/-- Whether a name starts here.  A backslash starts an escape unless a line break follows; one that
follows a hyphen always counts. -/
def startsName : List Char → Bool
  | [] => false
  | c :: cs =>
    if c == '-' then
      match cs with
      | d :: _ => isNameStart d || d == '-' || d == '\\'
      | [] => false
    else if c == '\\' then !startsWithLineBreak cs
    else isNameStart c

/-- The text up to a closing quote, past `skip` characters, and what follows: none if a line break
comes first, which then is not taken. -/
def takeQuoted (quote : Char) : Nat → List Char → Option (List Char) × List Char
  | _, [] => (some [], [])
  | skip + 1, _ :: cs => takeQuoted quote skip cs
  | 0, c :: cs =>
    if c == quote then (some [], cs)
    else if isLineBreak c then (none, c :: cs)
    else if c == '\\' then
      if cs.isEmpty then (some [], [])
      else if startsWithLineBreak cs then
        takeQuoted quote (cs.length - (dropLineBreak cs).length) cs
      else
        let (escaped, after) := takeEscape cs
        let (text, rest) := takeQuoted quote (cs.length - after.length) cs
        (text.map (escaped :: ·), rest)
    else
      let (text, rest) := takeQuoted quote 0 cs
      (text.map ((if c == '\x00' then replacement else c) :: ·), rest)

/-- What follows a comment; the text starts behind its opening mark. -/
def dropComment : List Char → List Char
  | '*' :: '/' :: cs => cs
  | _ :: cs => dropComment cs
  | [] => []

/-- What follows a bad address: all up to its closing bracket is dropped, and a backslash keeps a
bracket or a backslash from counting. -/
def dropBadUrl : List Char → List Char
  | [] => []
  | ')' :: cs => cs
  | '\\' :: ')' :: cs => dropBadUrl cs
  | '\\' :: '\\' :: cs => dropBadUrl cs
  | _ :: cs => dropBadUrl cs

/-- A character that no address without quotes holds. -/
def isBadInUrl (c : Char) : Bool :=
  let n := c.toNat
  (1 ≤ n && n ≤ 8) || n == 11 || (14 ≤ n && n ≤ 31) || n == 127 || c == '"' || c == '\'' ||
    c == '('

/-- The address up to its closing bracket, past `skip` characters, and what follows: none if it is
bad.  Blanks may stand before the bracket only. -/
def takeUrl : Nat → List Char → Option (List Char) × List Char
  | _, [] => (some [], [])
  | skip + 1, _ :: cs => takeUrl skip cs
  | 0, c :: cs =>
    if c == ')' then (some [], cs)
    else if isSpace c then
      match cs.dropWhile isSpace with
      | [] => (some [], [])
      | ')' :: rest => (some [], rest)
      | _ :: rest => (none, dropBadUrl rest)
    else if isBadInUrl c then (none, dropBadUrl cs)
    else if c == '\\' then
      if startsWithLineBreak cs then (none, dropBadUrl cs)
      else
        let (escaped, after) := takeEscape cs
        let (text, rest) := takeUrl (cs.length - after.length) cs
        (text.map (escaped :: ·), rest)
    else
      let (text, rest) := takeUrl 0 cs
      (text.map ((if c == '\x00' then replacement else c) :: ·), rest)

/-- A token for a name and what follows it: a function when a bracket follows, and an address when
the function is `url` and its argument has no quotes. -/
def takeNamed (cs : List Char) : Token × List Char :=
  let (name, rest) := takeName 0 cs
  match rest with
  | '(' :: arguments =>
    if name.map Char.toLower == "url".toList then
      match arguments.dropWhile isSpace with
      | [] => (.url "", [])
      | c :: more =>
        if c == '"' || c == '\'' then (.function (String.ofList name), arguments)
        else match takeUrl 0 (c :: more) with
          | (some text, rest) => (.url (String.ofList text), rest)
          | (none, rest) => (.badUrl, rest)
    else (.function (String.ofList name), arguments)
  | _ => (.ident (String.ofList name), rest)

/-- What follows an optional sign. -/
def dropSign : List Char → List Char
  | '+' :: cs => cs
  | '-' :: cs => cs
  | cs => cs

/-- What follows a point with digits behind it. -/
def dropFraction : List Char → List Char
  | '.' :: cs => if startsWithDigit cs then cs.dropWhile Char.isDigit else '.' :: cs
  | cs => cs

/-- What follows an exponent with digits. -/
def dropExponent : List Char → List Char
  | c :: cs =>
    if (c == 'e' || c == 'E') && startsWithDigit (dropSign cs) then
      (dropSign cs).dropWhile Char.isDigit
    else c :: cs
  | [] => []

/-- What follows a number. -/
def dropNumber (cs : List Char) : List Char :=
  dropExponent (dropFraction ((dropSign cs).dropWhile Char.isDigit))

/-- Whether a number starts here. -/
def startsNumber (cs : List Char) : Bool :=
  match dropSign cs with
  | '.' :: rest => startsWithDigit rest
  | rest => startsWithDigit rest

/-- A token for a number with what belongs to it, and what follows. -/
def takeNumeric (cs : List Char) : Token × List Char :=
  let rest := dropNumber cs
  let text := String.ofList (cs.take (cs.length - rest.length))
  match rest with
  | '%' :: more => (.percentage text, more)
  | _ =>
    if startsName rest then
      let (unit, more) := takeName 0 rest
      (.dimension text (String.ofList unit), more)
    else (.number text, rest)

/-- A token for a quoted text, and what follows; the text starts behind the quote. -/
def takeString (quote : Char) (cs : List Char) : Token × List Char :=
  match takeQuoted quote 0 cs with
  | (some text, rest) => (.quoted (String.ofList text), rest)
  | (none, rest) => (.badString, rest)

/-- A token for a character that an equals sign turns into an attribute matcher. -/
def takeMatcher (c : Char) : List Char → Token × List Char
  | '=' :: rest => (.matcher c, rest)
  | cs => (.delim c, cs)

/-- The token that starts with `c`, and what follows it. -/
def takeToken (c : Char) (cs : List Char) : Token × List Char :=
  if isSpace c then (.blanks, cs.dropWhile isSpace)
  else if startsNumber (c :: cs) then takeNumeric (c :: cs)
  else match c with
    | '"' => takeString '"' cs
    | '\'' => takeString '\'' cs
    | '#' =>
      if startsName cs || startsWithDigit cs || cs.head? == some '-' then
        let (name, rest) := takeName 0 cs
        (.hash (String.ofList name), rest)
      else (.delim '#', cs)
    | '(' => (.opening .round, cs)
    | ')' => (.closing .round, cs)
    | '[' => (.opening .square, cs)
    | ']' => (.closing .square, cs)
    | '{' => (.opening .curly, cs)
    | '}' => (.closing .curly, cs)
    | ',' => (.comma, cs)
    | ':' => (.colon, cs)
    | ';' => (.semicolon, cs)
    | '$' | '*' | '^' | '|' | '~' => takeMatcher c cs
    | '/' =>
      match cs with
      | '*' :: rest => (.comment, dropComment rest)
      | _ => (.delim '/', cs)
    | '<' =>
      match cs with
      | '!' :: '-' :: '-' :: rest => (.htmlOpen, rest)
      | _ => (.delim '<', cs)
    | '@' =>
      if startsName cs then
        let (name, rest) := takeName 0 cs
        (.atKeyword (String.ofList name), rest)
      else (.delim '@', cs)
    | _ =>
      match c, cs with
      | '-', '-' :: '>' :: rest => (.htmlClose, rest)
      | _, _ => if startsName (c :: cs) then takeNamed (c :: cs) else (.delim c, cs)

/-- The tokens of a text past `skip` characters. -/
def tokensFrom : Nat → List Char → List Token
  | _, [] => []
  | skip + 1, _ :: cs => tokensFrom skip cs
  | 0, c :: cs =>
    let (token, rest) := takeToken c cs
    token :: tokensFrom (cs.length - rest.length) cs

/-- The tokens of a text. -/
def tokens (s : String) : List Token :=
  tokensFrom 0 s.toList

end ThemeOptions.Css
