import ThemeOptions.Yaml.Scalar

/-!
# Cutting a YAML text into tokens

`tokens` goes through a text once.  Whether something is a key shows only at the colon behind it, so
a place where a key may start is kept in mind until the line ends, and the tokens for the key and
for its mapping are put there when the colon comes.  Block collections open and close with the
columns at which their items start.
-/

namespace ThemeOptions.Yaml

/-- A place where a key may start. -/
structure KeyPlace where
  /-- A key has to start here, since nothing else may stand in this column. -/
  required : Bool
  /-- How many tokens come before it. -/
  tokenCount : Nat
  index : Nat
  line : Nat
  column : Nat

/-- Whether a key that may have started there can no longer be one: it has to end on its line and
within 1024 octets. -/
def KeyPlace.isStale (k : KeyPlace) (c : Cursor) : Bool :=
  k.line < c.line || k.index + 1024 < c.index

/-- How far a text has been cut into tokens. -/
structure Lexer where
  cursor : Cursor
  tokens : Array Token := #[]
  /-- The column of the innermost block collection, `-1` if there is none. -/
  indent : Int := -1
  /-- The columns of the block collections around it. -/
  outer : List Int := []
  /-- The possible key outside all flow collections. -/
  blockKey : Option KeyPlace := none
  /-- The possible keys in the open flow collections, the innermost first. -/
  flowKeys : List (Option KeyPlace) := []
  /-- Whether a key may start here. -/
  keyAllowed : Bool := true

namespace Lexer

/-- Whether a flow collection is open. -/
def inFlow (s : Lexer) : Bool := !s.flowKeys.isEmpty

/-- Adds a token. -/
def push (t : Token) (s : Lexer) : Lexer := { s with tokens := s.tokens.push t }

/-- Puts tokens before the last ones. -/
def insert (count : Nat) (ts : Array Token) (s : Lexer) : Lexer :=
  { s with tokens := s.tokens.extract 0 count ++ ts ++ s.tokens.extract count s.tokens.size }

/-- The possible key of the innermost collection. -/
def key? (s : Lexer) : Option KeyPlace :=
  match s.flowKeys with
  | [] => s.blockKey
  | k :: _ => k

/-- Sets the possible key of the innermost collection. -/
def setKey (k : Option KeyPlace) (s : Lexer) : Lexer :=
  match s.flowKeys with
  | [] => { s with blockKey := k }
  | _ :: rest => { s with flowKeys := k :: rest }

/-- Forgets the possible key of the innermost collection, which must not be required. -/
def dropKey (s : Lexer) : Except Error Lexer :=
  if s.key?.any KeyPlace.required then .error .missingColon else .ok (s.setKey none)

/-- Notes that a key may start here, if it may. -/
def offerKey (s : Lexer) : Except Error Lexer :=
  if s.keyAllowed then
    s.dropKey.map (·.setKey (some
      { required := !s.inFlow && s.indent == s.cursor.column
        tokenCount := s.tokens.size
        index := s.cursor.index
        line := s.cursor.line
        column := s.cursor.column }))
  else .ok s

/-- Forgets a possible key that has become impossible. -/
def freshKey (c : Cursor) (k : Option KeyPlace) : Except Error (Option KeyPlace) :=
  match k with
  | some place =>
    if place.isStale c then
      if place.required then .error .missingColon else .ok none
    else .ok (some place)
  | none => .ok none

/-- Forgets all possible keys that have become impossible. -/
def dropStaleKeys (s : Lexer) : Except Error Lexer := do
  let blockKey ← freshKey s.cursor s.blockKey
  let flowKeys ← s.flowKeys.mapM (freshKey s.cursor)
  return { s with blockKey, flowKeys }

/-- Opens a block collection at a column further in than the one around it. -/
def openBlock (column : Nat) (s : Lexer) : Bool × Lexer :=
  if !s.inFlow && s.indent < column then
    (true, { s with indent := column, outer := s.indent :: s.outer })
  else (false, s)

/-- Opens a block collection whose first item starts here. -/
def openBlockHere (t : Token) (s : Lexer) : Lexer :=
  match s.openBlock s.cursor.column with
  | (true, s) => s.push t
  | (false, s) => s

/-- Closes the block collections of a list that start further in than a column. -/
def closeOuter (column : Int) : List Int → Lexer → Lexer
  | [], s => s
  | indent :: outer, s =>
    if column < s.indent then closeOuter column outer { s.push .blockEnd with indent, outer }
    else s

/-- Closes the block collections that start further in than a column. -/
def closeBlocks (column : Int) (s : Lexer) : Lexer :=
  if s.inFlow then s else closeOuter column s.outer s

/-- Past this many characters. -/
def skip (n : Nat) (s : Lexer) : Lexer := { s with cursor := s.cursor.skip n }

/-- Past blanks, comments and line breaks.  A byte-order mark may start a line.  Where a key may
start, a tab is no blank.  A line break outside flow collections lets a key start. -/
def skipFiller : Nat → Lexer → Lexer
  | 0, s => s
  | fuel + 1, s =>
    let c := s.cursor
    let c := if c.column == 0 && c.head? == some '\ufeff' then c.next else c
    let tabs := s.inFlow || !s.keyAllowed
    let c := (c.skipWhile fun ch => ch == ' ' || (tabs && ch == '\t')).skipComment
    if c.head?.any isBreak then
      skipFiller fuel { s with cursor := c.nextLine, keyAllowed := s.keyAllowed || !s.inFlow }
    else { s with cursor := c }

/-- Ends all block collections before something that stands outside every document. -/
def leaveDocument (s : Lexer) : Except Error Lexer :=
  (s.closeBlocks (-1)).dropKey.map fun s => { s with keyAllowed := false }

/-- A mark between documents. -/
def documentMark (t : Token) (s : Lexer) : Except Error Lexer :=
  s.leaveDocument.map fun s => (s.push t).skip 3

/-- The opening bracket of a flow collection. -/
def flowStart (t : Token) (s : Lexer) : Except Error Lexer :=
  s.offerKey.map fun s =>
    ({ s with flowKeys := none :: s.flowKeys, keyAllowed := true }.push t).skip 1

/-- The closing bracket of a flow collection. -/
def flowEnd (t : Token) (s : Lexer) : Except Error Lexer :=
  s.dropKey.map fun s =>
    ({ s with flowKeys := s.flowKeys.drop 1, keyAllowed := false }.push t).skip 1

/-- The comma of a flow collection. -/
def flowEntry (s : Lexer) : Except Error Lexer :=
  s.dropKey.map fun s => ({ s with keyAllowed := true }.push .flowEntry).skip 1

/-- The hyphen of a block sequence. -/
def blockEntry (s : Lexer) : Except Error Lexer := do
  if !s.inFlow && !s.keyAllowed then throw .misplacedEntry
  let s ← (s.openBlockHere .blockSequenceStart).dropKey
  return ({ s with keyAllowed := true }.push .blockEntry).skip 1

/-- The question mark before a key. -/
def keyMark (s : Lexer) : Except Error Lexer := do
  if !s.inFlow && !s.keyAllowed then throw .misplacedKey
  let s ← (s.openBlockHere .blockMappingStart).dropKey
  return ({ s with keyAllowed := !s.inFlow }.push .key).skip 1

/-- The colon before a value, behind which a possible key has been one. -/
def valueMark (s : Lexer) : Except Error Lexer := do
  let s ←
    match s.key? with
    | some place =>
      let (opened, s) := (s.setKey none).openBlock place.column
      let s := s.insert place.tokenCount (if opened then #[.blockMappingStart, .key] else #[.key])
      pure { s with keyAllowed := false }
    | none =>
      if !s.inFlow && !s.keyAllowed then throw .misplacedValue
      pure { s.openBlockHere .blockMappingStart with keyAllowed := !s.inFlow }
  return (s.push .value).skip 1

/-- The characters that may stand behind the name of an anchor. -/
def endsAnchor (c : Option Char) : Bool :=
  isGap c || c.any fun ch =>
    ch == '?' || ch == ':' || ch == ',' || ch == ']' || ch == '\x7d' || ch == '%' || ch == '@' ||
      ch == '\x60'

/-- An anchor or an alias: a mark and a name. -/
def anchor (t : String → Token) (s : Lexer) : Except Error Lexer := do
  let s ← s.offerKey
  let (name, c) := s.cursor.next.span isWordChar
  if name.isEmpty || !endsAnchor c.head? then throw .badAnchor
  return { s with cursor := c, keyAllowed := false }.push (t (String.ofList name))

/-- The handle of a tag: an exclamation mark, and if a second one follows a name, that name and that
mark.  Otherwise the name belongs to what follows the handle. -/
def tagHandle (c : Cursor) : Except Error (List Char × Cursor) :=
  if c.head? != some '!' then .error .badTag
  else
    let (name, c) := c.next.span isWordChar
    if c.head? == some '!' then .ok ('!' :: name ++ ['!'], c.next) else .ok ('!' :: name, c)

/-- The characters of a tag.  The brackets and the comma of flow collections stand only in tags that
are written out. -/
def isTagChar (writtenOut : Bool) (c : Char) : Bool :=
  isWordChar c || ";/?:@&=+$.%!~*'()".toList.contains c ||
    (writtenOut && (c == ',' || c == '[' || c == ']'))

/-- How many octets belong to a character whose first octet is this one. -/
def octetCount? (n : Nat) : Option Nat :=
  if n < 0x80 then some 1
  else if n / 32 == 6 then some 2
  else if n / 16 == 14 then some 3
  else if n / 8 == 30 then some 4
  else none

/-- The octets that percent signs and two digits each spell. -/
def escapedOctets : Nat → List Char → Except Error (List Nat)
  | 0, _ => .ok []
  | n + 1, '%' :: a :: b :: cs =>
    match hexNumber? [a, b] with
    | some octet => (escapedOctets n cs).map (octet :: ·)
    | none => .error .badTag
  | _ + 1, _ => .error .badTag

/-- The octets of an escape in a tag, as many as the first of them announces. -/
def tagEscape (cs : List Char) : Except Error (List UInt8) := do
  let first ← escapedOctets 1 cs
  match octetCount? (first.headD 0) with
  | none => throw .badTag
  | some count =>
    let all ← escapedOctets count cs
    if (all.drop 1).any fun o => o / 64 != 2 then throw .badTag
    return all.map (·.toUInt8)

/-- The octets of a tag. -/
def tagOctets (writtenOut : Bool) : Nat → Cursor → Except Error (List UInt8 × Cursor)
  | 0, c => .ok ([], c)
  | fuel + 1, c =>
    match c.head? with
    | none => .ok ([], c)
    | some ch =>
      if ch == '%' then do
        let escaped ← tagEscape c.rest
        let (octets, c) ← tagOctets writtenOut fuel (c.skip (3 * escaped.length))
        return (escaped ++ octets, c)
      else if isTagChar writtenOut ch then do
        let (octets, c) ← tagOctets writtenOut fuel c.next
        return (ch.toNat.toUInt8 :: octets, c)
      else .ok ([], c)

/-- A tag: written out between angle brackets, or a handle and what follows it. -/
def readTag (c : Cursor) : Except Error (Token × Cursor) := do
  let fuel := c.rest.length
  if c.at? 1 == some '<' then
    let (octets, c) ← tagOctets true fuel (c.skip 2)
    if octets.isEmpty || c.head? != some '>' then throw .badTag
    return (.tag "" (Tag.untilZero octets), c.next)
  else
    let (handle, c) ← tagHandle c
    let (octets, c) ← tagOctets false fuel c
    if handle.length > 1 && handle.getLast? == some '!' then
      if octets.isEmpty then throw .badTag
      return (.tag (String.ofList handle) (Tag.untilZero octets), c)
    else
      let suffix := Tag.untilZero (Tag.encode (String.ofList (handle.drop 1)) ++ octets)
      return (if suffix.isEmpty then .tag "" [Tag.mark] else .tag "!" suffix, c)

/-- A tag with what has to follow it. -/
def tag (s : Lexer) : Except Error Lexer := do
  let s ← s.offerKey
  let (t, c) ← readTag s.cursor
  if !isGap c.head? && !(s.inFlow && c.head? == some ',') then throw .badTag
  return { s with cursor := c, keyAllowed := false }.push t

/-- The number of a version, of up to nine digits. -/
def versionNumber (c : Cursor) : Except Error (Nat × Cursor) :=
  let (digits, c) := c.span Char.isDigit
  if digits.isEmpty || digits.length > 9 then .error .badDirective
  else .ok (digits.foldl (fun n d => 10 * n + (d.toNat - 48)) 0, c)

/-- The token of a directive. -/
def readDirective (c : Cursor) : Except Error (Token × Cursor) := do
  let (name, c) := c.next.span isWordChar
  if name.isEmpty || !isGap c.head? then throw .badDirective
  let c := c.skipWhile isBlank
  match String.ofList name with
  | "YAML" =>
    let (major, c) ← versionNumber c
    if c.head? != some '.' then throw .badDirective
    let (minor, c) ← versionNumber c.next
    return (.version major minor, c)
  | "TAG" =>
    let (handle, c) ← tagHandle c
    if handle.length > 1 && handle.getLast? != some '!' then throw .badDirective
    if !c.head?.any isBlank then throw .badDirective
    let c := c.skipWhile isBlank
    let (octets, c) ← tagOctets true c.rest.length c
    if octets.isEmpty || !isGap c.head? then throw .badDirective
    return (.tagHandle (String.ofList handle) (Tag.untilZero octets), c)
  | _ => throw .badDirective

/-- A directive with the rest of its line. -/
def directive (s : Lexer) : Except Error Lexer := do
  let s ← s.leaveDocument
  let (t, c) ← readDirective s.cursor
  let c := (c.skipWhile isBlank).skipComment
  if !isLineEnd c.head? then throw .badDirective
  return { s with cursor := if c.rest.isEmpty then c else c.nextLine }.push t

/-- A block scalar. -/
def blockScalar (style : Style) (s : Lexer) : Except Error Lexer := do
  let s ← s.dropKey
  let (text, c) ← readBlock (style == .folded) s.indent s.cursor.next
  return { s with cursor := c, keyAllowed := true }.push (.scalar style (String.ofList text))

/-- A quoted scalar. -/
def quotedScalar (style : Style) (quote : Char) (s : Lexer) : Except Error Lexer := do
  let s ← s.offerKey
  let (text, c) ← readQuoted quote (s.cursor.rest.length + 1) [] s.cursor.next
  return { s with cursor := c, keyAllowed := false }.push (.scalar style (String.ofList text))

/-- A plain scalar.  Where a line ends behind it, a key may start. -/
def plainScalar (s : Lexer) : Except Error Lexer := do
  let s ← s.offerKey
  let (text, broken, c) ←
    readPlain s.inFlow (s.indent + 1) (s.cursor.rest.length + 1) [] {} s.cursor
  return { s with cursor := c, keyAllowed := broken }.push (.scalar .plain (String.ofList text))

/-- The characters with which no plain scalar starts. -/
def isIndicator (c : Char) : Bool :=
  "-?:,[]#&*!|>'\"%@".toList.contains c || c == '\x7b' || c == '\x7d' || c == '\x60'

/-- Whether a plain scalar starts with `ch` if `next` follows. -/
def startsPlain (inFlow : Bool) (ch : Char) (next : Option Char) : Bool :=
  (!isIndicator ch && !isGap (some ch)) || (ch == '-' && !next.any isBlank) ||
    (!inFlow && (ch == '?' || ch == ':') && !isGap next)

/-- The token that starts with `ch`. -/
def readToken (ch : Char) (s : Lexer) : Except Error Lexer :=
  let c := s.cursor
  let next := c.at? 1
  if c.column == 0 && ch == '%' then s.directive
  else if c.atMark '-' then s.documentMark .documentStart
  else if c.atMark '.' then s.documentMark .documentEnd
  else if ch == '[' then s.flowStart .flowSequenceStart
  else if ch == '\x7b' then s.flowStart .flowMappingStart
  else if ch == ']' then s.flowEnd .flowSequenceEnd
  else if ch == '\x7d' then s.flowEnd .flowMappingEnd
  else if ch == ',' then s.flowEntry
  else if ch == '-' && isGap next then s.blockEntry
  else if ch == '?' && (s.inFlow || isGap next) then s.keyMark
  else if ch == ':' && (s.inFlow || isGap next) then s.valueMark
  else if ch == '*' then s.anchor .reference
  else if ch == '&' then s.anchor .anchor
  else if ch == '!' then s.tag
  else if ch == '|' && !s.inFlow then s.blockScalar .literal
  else if ch == '>' && !s.inFlow then s.blockScalar .folded
  else if ch == '\'' then s.quotedScalar .singleQuoted '\''
  else if ch == '"' then s.quotedScalar .doubleQuoted '"'
  else if startsPlain s.inFlow ch next then s.plainScalar
  else .error .strayCharacter

/-- Reads tokens up to the end of the text. -/
def run : Nat → Lexer → Except Error (Array Token)
  | 0, s => .ok s.tokens
  | fuel + 1, s => do
    let s ← (s.skipFiller (s.cursor.rest.length + 1)).dropStaleKeys
    match s.cursor.rest with
    | [] =>
      let s ← s.leaveDocument
      return s.tokens
    | ch :: _ =>
      let s ← (s.closeBlocks s.cursor.column).readToken ch
      run fuel s

end Lexer

/-- The characters that may stand in a YAML text. -/
def isAllowed (c : Char) : Bool :=
  let n := c.toNat
  c == '\t' || c == '\n' || c == '\r' || (0x20 ≤ n && n ≤ 0x7e) || n == 0x85 ||
    (0xa0 ≤ n && n ≤ 0xd7ff) || (0xe000 ≤ n && n ≤ 0xfffd) || 0x10000 ≤ n

/-- The tokens of a text. -/
def tokens (text : String) : Except Error (Array Token) :=
  let cs := text.toList
  if cs.all isAllowed then Lexer.run (cs.length + 1) { cursor := { rest := cs } }
  else .error .controlCharacter

end ThemeOptions.Yaml
