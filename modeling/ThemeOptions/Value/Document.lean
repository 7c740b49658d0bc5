import ThemeOptions.Document.Describe
import ThemeOptions.Value

/-!
# Option values in documents

`Value.ofDocument` reads a value: null, a scalar, or a mapping from font fields to scalars, each
under tags or not.  `Value.toDocument` is the plain form in which values are written.
-/

namespace ThemeOptions.Value

/-- Why a document is no option value. -/
inductive ReadError where
  | sequence
  | fontKey (key : Document)
  | unknownField (name : String)
  /-- A font field that holds a font again. -/
  | nestedFont (name : String)

/-- The message about a document that is no option value. -/
def ReadError.message : ReadError → String
  | sequence => "Sequences are not valid option values"
  | fontKey key => "Font field name must be a string, got " ++ key.describe
  | unknownField name => "Unknown font field '" ++ name ++ "'"
  | nestedFont name => "Font field '" ++ name ++ "' must be a scalar"

mutual

/-- Reads an option value, seen through tags.  A mapping is a font. -/
def ofDocument : Document → Except ReadError Value
  | .null => .ok unset
  | .bool b => .ok (bool b)
  | .number n => .ok (number n.toFloat)
  | .string s => .ok (text s)
  | .sequence _ => .error .sequence
  | .mapping pairs => ofPairs pairs FontTable.empty
  | .tagged _ value => ofDocument value

/-- Reads the fields of a font into those read before; of two spellings of a field the later one
counts. -/
def ofPairs : List (Document × Document) → FontTable Value → Except ReadError Value
  | [], fields => .ok (font fields)
  | (key, value) :: rest, fields =>
    match key.string? with
    | none => .error (.fontKey key)
    | some name =>
      match FontField.parse? name with
      | none => .error (.unknownField name)
      | some field =>
        match ofDocument value with
        | .error e => .error e
        | .ok (font _) => .error (.nestedFont name)
        | .ok v => ofPairs rest (fields.set field v)

end

mutual

/-- The plain form of a value: null, a scalar, or a mapping from the names of the set font fields in
canonical order. -/
def toDocument : Value → Document
  | unset => .null
  | bool b => .bool b
  | number n => .number (.float n)
  | text t => .string t
  | font fields => .mapping (FontField.all.flatMap fun f => toPairs f (fields f))

/-- The plain form of one font field, if it is set. -/
def toPairs (f : FontField) : Option Value → List (Document × Document)
  | none => []
  | some v => [(.string f.name, toDocument v)]

end

end ThemeOptions.Value
