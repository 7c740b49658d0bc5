import ThemeOptions.Document.Basic

/-!
# JSON text

Documents as JSON, on one line or indented by two blanks.  Mappings keep their order; empty ones and
empty sequences stay on one line.  A float without a finite value is null, and a tag is not written.
-/

namespace ThemeOptions.Json

/-- A float in JSON is laid out like a number as text, but a large exponent gets a plus sign. -/
def layout : Decimal.Layout where
  positional := Number.layout.positional
  pointZero := true
  mark := "e+"
  tie := .even
  nan := "null"
  infinite _ := "null"

/-- Two hexadecimal digits. -/
def hexPair (n : Nat) : List Char :=
  [Nat.digitChar (n / 16), Nat.digitChar (n % 16)]

/-- One character inside a JSON string: quotes, backslashes and controls are escaped. -/
def escapeChar (c : Char) : List Char :=
  if c == '"' then ['\\', '"']
  else if c == '\\' then ['\\', '\\']
  else if c == '\x08' then ['\\', 'b']
  else if c == '\t' then ['\\', 't']
  else if c == '\n' then ['\\', 'n']
  else if c == '\x0c' then ['\\', 'f']
  else if c == '\r' then ['\\', 'r']
  else if c.toNat < 32 then '\\' :: 'u' :: '0' :: '0' :: hexPair c.toNat
  else [c]

/-- A JSON string. -/
def string (s : String) : String :=
  String.ofList ('"' :: s.toList.flatMap escapeChar ++ ['"'])

/-- A JSON number. -/
def number : Number → String
  | .int n => toString n
  | .float x => layout.write x

/-- The text of a key. -/
def keyText : Document → String
  | .string s => s
  | .bool b => Document.boolText b
  | .number n => n.text
  | _ => ""

mutual

/-- A document on one line. -/
def compact : Document → String
  | .null => "null"
  | .bool b => Document.boolText b
  | .number n => number n
  | .string s => string s
  | .sequence items => "[" ++ String.intercalate "," (compactItems items) ++ "]"
  | .mapping pairs => "\x7b" ++ String.intercalate "," (compactPairs pairs) ++ "\x7d"
  | .tagged _ value => compact value

/-- The items of a sequence, each on one line. -/
def compactItems : List Document → List String
  | [] => []
  | d :: rest => compact d :: compactItems rest

/-- The members of an object, each on one line. -/
def compactPairs : List (Document × Document) → List String
  | [] => []
  | (key, value) :: rest => (string (keyText key) ++ ":" ++ compact value) :: compactPairs rest

end

/-- Lines between an opening and a closing bracket, which stand alone unless there are none. -/
def bracketed (opening closing : String) (depth : Nat) : List String → String
  | [] => opening ++ closing
  | lines =>
    let indent n := "\n" ++ String.ofList (List.replicate (2 * n) ' ')
    opening ++ indent (depth + 1) ++ String.intercalate ("," ++ indent (depth + 1)) lines ++
      indent depth ++ closing

mutual

/-- A document over several lines, inside this many brackets. -/
def indented (depth : Nat) : Document → String
  | .null => "null"
  | .bool b => Document.boolText b
  | .number n => number n
  | .string s => string s
  | .sequence items => bracketed "[" "]" depth (indentedItems (depth + 1) items)
  | .mapping pairs => bracketed "\x7b" "\x7d" depth (indentedPairs (depth + 1) pairs)
  | .tagged _ value => indented depth value

/-- The items of a sequence over several lines. -/
def indentedItems (depth : Nat) : List Document → List String
  | [] => []
  | d :: rest => indented depth d :: indentedItems depth rest

/-- The members of an object over several lines. -/
def indentedPairs (depth : Nat) : List (Document × Document) → List String
  | [] => []
  | (key, value) :: rest =>
    (string (keyText key) ++ ": " ++ indented depth value) :: indentedPairs depth rest

end

/-- A document over several lines, indented by two blanks. -/
def pretty (d : Document) : String :=
  indented 0 d

end ThemeOptions.Json
