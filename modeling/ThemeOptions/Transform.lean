import ThemeOptions.Entry

/-!
# Transforms

A rule may send its value through a transform, which supplies the property and the value that are
emitted.  Transforms are looked up by name.  Four of them are built in, and further ones can be
registered under names of their own.
-/

namespace ThemeOptions

/-- The declaration that a transform makes. -/
structure TransformOutput where
  property : String
  value : Value

/-- Why a transform refuses a value. -/
inductive TransformError where
  | notNumeric (name found : String)
  | refused (message : String)
deriving DecidableEq, Repr

def TransformError.message : TransformError → String
  | notNumeric name found => "transform '" ++ name ++ "' expects a number, got " ++ found
  | refused message => message

/-- The transforms that are built in. -/
inductive Builtin where
  | spacing
  | negativeSpacing
  | halfSpacing
  /-- A slider from 0 to 200 as a percentage of the width, on which 100 is a square. -/
  | aspectRatio
deriving DecidableEq, Repr

namespace Builtin

def all : List Builtin := [spacing, negativeSpacing, halfSpacing, aspectRatio]

def name : Builtin → String
  | spacing => "spacing"
  | negativeSpacing => "negative_spacing"
  | halfSpacing => "half_spacing"
  | aspectRatio => "aspect_ratio"

/-- How many times as high as wide a slider value stands for: up to a square the height is divided,
beyond it is multiplied. -/
def ratio (n : Float) : Float :=
  if n > 100 then 1 + (n - 100) / 100 else 1 / (1 + (100 - n) / 100)

/-- A percentage with up to four decimal places. -/
def percentage (ratio : Float) : String :=
  Decimal.Layout.plain.write (Decimal.roundWhole (ratio * 100 * 10000) / 10000) ++ "%"

/-- What a message says that was found instead of a number. -/
def shown : Value → String
  | .text t => "'" ++ t ++ "'"
  | v => v.typeName

/-- Every built-in transform works on numbers only. -/
def apply (b : Builtin) (v : Value) (r : Rule) : Except TransformError TransformOutput :=
  match v.number? with
  | none => .error (.notNumeric b.name (shown v))
  | some n =>
    match b with
    | spacing => .ok ⟨r.property, .number n⟩
    | negativeSpacing => .ok ⟨r.property, .number (-n)⟩
    | halfSpacing => .ok ⟨r.property, .number (n / 2)⟩
    | aspectRatio => .ok ⟨"padding-top", .text (percentage (ratio n))⟩

end Builtin

/-- A transform: built in, or a function of the value, its rule and its option. -/
inductive Transform where
  | builtin (b : Builtin)
  | custom (f : Value → Rule → Entry → Except TransformError TransformOutput)

def Transform.apply (t : Transform) (v : Value) (r : Rule) (e : Entry) :
    Except TransformError TransformOutput :=
  match t with
  | builtin b => b.apply v r
  | custom f => f v r e

/-- Why a transform is not registered. -/
inductive RegistrationError where
  | emptyName
  | invalidName (name : String)
  | duplicate (name : String)
deriving DecidableEq, Repr

def RegistrationError.message : RegistrationError → String
  | emptyName => "transform name is empty"
  | invalidName name =>
    "invalid transform name '" ++ name ++ "': use letters, digits and underscores"
  | duplicate name => "transform '" ++ name ++ "' is already registered"

/-- Whether a name is an identifier: an ASCII letter or an underscore, then letters, digits and
underscores. -/
def isIdentifier (name : String) : Bool :=
  match name.toList with
  | [] => false
  | c :: cs => (c.isAlpha || c == '_') && cs.all fun c => c.isAlphanum || c == '_'

/-- Transforms by name. -/
structure Transforms where
  named : Keyed (String × Transform) Prod.fst

namespace Transforms

/-- No transforms. -/
def empty : Transforms := ⟨Keyed.empty⟩

/-- The transforms that are built in. -/
def builtins : Transforms :=
  ⟨Keyed.ofList (Builtin.all.map fun b => (b.name, .builtin b))⟩

instance : Inhabited Transforms := ⟨builtins⟩

def get? (ts : Transforms) (name : String) : Option Transform :=
  (ts.named.find? name).map Prod.snd

def contains (ts : Transforms) (name : String) : Bool := ts.named.contains name

/-- The registered names in order of their characters. -/
def names (ts : Transforms) : List String :=
  ts.named.keys.mergeSort fun a b => a ≤ b

/-- Registers a transform under an identifier that is free. -/
def register (ts : Transforms) (name : String) (t : Transform) :
    Except RegistrationError Transforms :=
  if name.isEmpty then .error .emptyName
  else if !isIdentifier name then .error (.invalidName name)
  else if ts.contains name then .error (.duplicate name)
  else .ok ⟨ts.named.insert (name, t)⟩

end Transforms

end ThemeOptions
