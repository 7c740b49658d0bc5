import ThemeOptions.Decimal.Binary
import ThemeOptions.Decimal.Reader
import ThemeOptions.Document.Basic
import ThemeOptions.Yaml.Node
import ThemeOptions.Yaml.Scalar

/-!
# What scalars stand for

A plain scalar is null, a truth value, an integer, a float or else a text, whatever it can be first.
Scalars in quotes and block scalars are texts.  A tag of the core schema asks for one of these
kinds.
-/

namespace ThemeOptions.Yaml

/-- Whether a text is a spelling of null, apart from the empty text. -/
def isNull (s : String) : Bool := ["~", "null", "Null", "NULL"].contains s

/-- The truth value that a text spells. -/
def bool? (s : String) : Option Bool :=
  if ["true", "True", "TRUE"].contains s then some true
  else if ["false", "False", "FALSE"].contains s then some false
  else none

/-- The number that digits of a base spell; there is at least one. -/
def digitsNumber? (base : Nat) (cs : List Char) : Option Nat :=
  if cs.isEmpty then none
  else cs.foldl (fun n c => n.bind fun n =>
    match hexDigit? c with
    | some d => if d < base then some (base * n + d) else none
    | none => none) (some 0)

/-- Whether a text is made of digits after an optional sign and starts with a needless zero.  Such a
text is no number. -/
def hasNeedlessZero (cs : List Char) : Bool :=
  match (Decimal.splitSign cs).2 with
  | '0' :: d :: ds => (d :: ds).all Char.isDigit
  | _ => false

/-- The whole number that a text without a sign spells, in decimal or with the mark of another base
before it. -/
def whole? (cs : List Char) : Option Nat :=
  match cs with
  | '0' :: 'x' :: ds => digitsNumber? 16 ds
  | '0' :: 'o' :: ds => digitsNumber? 8 ds
  | '0' :: 'b' :: ds => digitsNumber? 2 ds
  | _ => if hasNeedlessZero cs then none else digitsNumber? 10 cs

/-- The integer that a text spells, of any size. -/
def integer? (s : String) : Option Int :=
  let (negative, cs) := Decimal.splitSign s.toList
  (whole? cs).map fun n => if negative then -(n : Int) else n

/-- How an integer fares in a document. -/
inductive Width where
  /-- It fits into 64 bits, signed or unsigned. -/
  | fits
  /-- It fits into twice as many. -/
  | wide
  /-- It counts as a float. -/
  | beyond
deriving DecidableEq, Repr

/-- How an integer fares in a document. -/
def Width.of (n : Int) : Width :=
  let size : Int := UInt64.size
  if -(size / 2) ≤ n && n < size then fits
  else if -(size * size / 2) ≤ n && n < size * size then wide
  else beyond

/-- The float that a text spells, if it is finite or one of the marked words. -/
def float? (s : String) : Option Float :=
  let cs := s.toList
  let (signed, unsigned) :=
    match cs with
    | '+' :: rest => (true, rest)
    | _ => (false, cs)
  let word := String.ofList unsigned
  if signed && (unsigned.head? == some '+' || unsigned.head? == some '-') then none
  else if [".inf", ".Inf", ".INF"].contains word then some (1 / 0)
  else if ["-.inf", "-.Inf", "-.INF"].contains word then some (-1 / 0)
  else if [".nan", ".NaN", ".NAN"].contains s then some (0 / 0)
  else (Decimal.readChars unsigned).filter Decimal.isFinite

/-- The integer that a text spells as a document, unless it counts as a float. -/
def integerDocument? (s : String) : Option (Except Error Document) :=
  match integer? s with
  | none => none
  | some n =>
    match Width.of n with
    | .fits => some (.ok (.number (.int n)))
    | .wide => some (.error .wideInteger)
    | .beyond => none

/-- What a plain scalar stands for. -/
def resolve (s : String) : Except Error Document :=
  if s.isEmpty || isNull s then .ok .null
  else match bool? s with
    | some b => .ok (.bool b)
    | none =>
      match integerDocument? s with
      | some d => d
      | none =>
        if hasNeedlessZero s.toList then .ok (.string s)
        else match float? s with
          | some x => .ok (.number (.float x))
          | none => .ok (.string s)

/-- What a scalar stands for whose tag does not leave that open. -/
def resolveTagged (tag : Tag) (text : String) : Except Error Document :=
  let expect (found : Option Document) : Except Error Document :=
    match found with
    | some d => .ok d
    | none => .error .scalarMismatch
  if tag == .core "bool" then expect ((bool? text).map .bool)
  else if tag == .core "int" then (integerDocument? text).getD (.error .scalarMismatch)
  else if tag == .core "float" then expect ((float? text).map fun x => .number (.float x))
  else if tag == .core "null" then if isNull text then .ok .null else .error .scalarMismatch
  else .ok (.string text)

/-- The name of a node's tag, if that is local. -/
def localName? (tag : Option Tag) : Option String := tag.bind Tag.name?

/-- A document under the local tag of its node. -/
def underTag (tag : Option Tag) (d : Document) : Document :=
  match localName? tag with
  | some name => .tagged (Document.tagName name) d
  | none => d

/-- What a scalar stands for.  A local tag leaves that open, even one without a name, as long as the
scalar is plain. -/
def resolveScalar (tag : Option Tag) (style : Style) (text : String) : Except Error Document :=
  let untagged := if style == .plain then resolve text else .ok (.string text)
  match tag with
  | none => untagged
  | some t =>
    if t.name?.isSome || (t.isLocal && style == .plain) then untagged.map (underTag tag)
    else resolveTagged t text

end ThemeOptions.Yaml
