/-!
# Errors in YAML texts

Why a YAML text cannot be read, from its characters up to the type that is expected of it.
-/

namespace ThemeOptions.Yaml

/-- Why a YAML text cannot be read. -/
inductive Error where
  | controlCharacter
  /-- A key that has to be one is not followed by a colon. -/
  | missingColon
  | misplacedEntry
  | misplacedKey
  | misplacedValue
  /-- A character with which nothing starts. -/
  | strayCharacter
  | badDirective
  | badAnchor
  | badTag
  | badBlockHeader
  | tabIndentation
  | unclosedQuote
  | badEscape
  /-- A mark between documents inside quotes. -/
  | markInQuotes
  | colonInFlow
  | expectedDocument
  | expectedNode
  | expectedEntry
  | expectedKey
  | unclosedFlow
  | duplicateDirective
  | wrongVersion
  | undefinedTag
  | severalDocuments
  | unknownAnchor
  | tooDeep
  | tooManyAliases
  | duplicateKey
  /-- A scalar that is not what its tag says. -/
  | scalarMismatch
  /-- An integer that does not fit into 64 bits. -/
  | wideInteger
  | unexpectedTag
  | expectedMapping
  | expectedSequence
  | expectedScalar
  | expectedBool
  | expectedInteger
  | expectedChoice
  | unknownField (name : String)
  | duplicateField (name : String)
  | missingField (name : String)
deriving DecidableEq, Repr

def Error.message : Error → String
  | controlCharacter => "control characters are not allowed"
  | missingColon => "could not find expected ':'"
  | misplacedEntry => "block sequence entries are not allowed in this context"
  | misplacedKey => "mapping keys are not allowed in this context"
  | misplacedValue => "mapping values are not allowed in this context"
  | strayCharacter => "found character that cannot start any token"
  | badDirective => "found a malformed directive"
  | badAnchor => "did not find expected alphabetic or numeric character"
  | badTag => "found a malformed tag"
  | badBlockHeader => "did not find expected comment or line break"
  | tabIndentation => "found a tab character where an indentation space is expected"
  | unclosedQuote => "found unexpected end of stream in a quoted scalar"
  | badEscape => "found unknown escape sequence"
  | markInQuotes => "found unexpected document indicator in a quoted scalar"
  | colonInFlow => "found unexpected ':' in a plain scalar"
  | expectedDocument => "did not find expected document start"
  | expectedNode => "did not find expected node content"
  | expectedEntry => "did not find expected '-' indicator"
  | expectedKey => "did not find expected key"
  | unclosedFlow => "did not find expected ',' or closing bracket"
  | duplicateDirective => "found duplicate directive"
  | wrongVersion => "found incompatible YAML document"
  | undefinedTag => "found undefined tag handle"
  | severalDocuments => "expected a single document"
  | unknownAnchor => "unknown anchor"
  | tooDeep => "recursion limit exceeded"
  | tooManyAliases => "repetition limit exceeded"
  | duplicateKey => "duplicate entry in mapping"
  | scalarMismatch => "scalar does not match its tag"
  | wideInteger => "integer out of range"
  | unexpectedTag => "unexpected tag"
  | expectedMapping => "expected a mapping"
  | expectedSequence => "expected a sequence"
  | expectedScalar => "expected a scalar"
  | expectedBool => "expected a boolean"
  | expectedInteger => "expected an integer"
  | expectedChoice => "expected one of the known names"
  | unknownField name => "unknown field '" ++ name ++ "'"
  | duplicateField name => "duplicate field '" ++ name ++ "'"
  | missingField name => "missing field '" ++ name ++ "'"

end ThemeOptions.Yaml
