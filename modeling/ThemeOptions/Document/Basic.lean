import ThemeOptions.Decimal.Layout

/-!
# Document values

A `Document` is what a YAML document says: scalars, sequences, and mappings whose keys are again
documents, each possibly under a tag.  Mappings keep their order.  Most of the library looks through
tags with `untagged`; where a tag makes a difference it matches on the constructors.
-/

namespace ThemeOptions

/-- A number as a document writes it: `1` and `1.0` are different. -/
inductive Number where
  | int (value : Int)
  | float (value : Float)

/-- A document value. -/
inductive Document where
  | null
  | bool (value : Bool)
  | number (value : Number)
  | string (text : String)
  | sequence (items : List Document)
  /-- Keys and values in order. -/
  | mapping (pairs : List (Document × Document))
  /-- A value under a tag; the tag is kept without its exclamation mark. -/
  | tagged (tag : String) (value : Document)

instance : Inhabited Document := ⟨.null⟩

/-- A number as text has no exponent for magnitudes from `10 ^ -5` up to `10 ^ 16`, and always shows
that it is not a whole number. -/
def Number.layout : Decimal.Layout where
  positional place := -5 ≤ place && place < 16
  pointZero := true
  mark := "e"
  tie := .even
  nan := ".nan"
  infinite negative := if negative then "-.inf" else ".inf"

namespace Number

/-- The nearest 64-bit float. -/
def toFloat : Number → Float
  | int n => Float.ofInt n
  | float x => x

/-- The number as text. -/
def text : Number → String
  | int n => toString n
  | float x => layout.write x

/-- Whether two numbers count as the same key: whole numbers never equal floats, and all floats
without a value equal each other. -/
def sameKey : Number → Number → Bool
  | int m, int n => m == n
  | float x, float y => x == y || (x.isNaN && y.isNaN)
  | _, _ => false

end Number

namespace Document

/-- The name of a tag as documents keep it.  An exclamation mark before it is no part of it, unless
that is all there is. -/
def tagName (tag : String) : String :=
  match tag.toList with
  | '!' :: c :: rest => String.ofList (c :: rest)
  | _ => tag

/-- The text of a truth value. -/
def boolText (b : Bool) : String :=
  if b then "true" else "false"

/-- The value below all tags. -/
def untagged : Document → Document
  | tagged _ value => value.untagged
  | d => d

/-- The pairs of a mapping, seen through tags. -/
def pairs? (d : Document) : Option (List (Document × Document)) :=
  match d.untagged with
  | mapping pairs => some pairs
  | _ => none

/-- The text of a string, seen through tags. -/
def string? (d : Document) : Option String :=
  match d.untagged with
  | string text => some text
  | _ => none

/-- The value of a pair whose key is this string, without a tag. -/
def lookup (pairs : List (Document × Document)) (name : String) : Option Document :=
  match pairs with
  | [] => none
  | (string text, value) :: rest => if text == name then some value else lookup rest name
  | _ :: rest => lookup rest name

@[simp] theorem lookup_append (ps qs : List (Document × Document)) (name : String) :
    lookup (ps ++ qs) name = (lookup ps name).or (lookup qs name) := by
  induction ps with
  | nil => rfl
  | cons p ps ih =>
    obtain ⟨key, value⟩ := p
    cases key with
    | string text =>
      rw [List.cons_append, lookup, lookup, ih]
      split <;> rfl
    | _ => exact ih

/-- The value under the first of the names that is a key, even if that value is null. -/
def lookupAny (pairs : List (Document × Document)) (names : List String) : Option Document :=
  names.findSome? (lookup pairs)

@[simp] theorem lookupAny_nil (pairs : List (Document × Document)) : lookupAny pairs [] = none :=
  rfl

@[simp] theorem lookupAny_cons (pairs : List (Document × Document)) (name : String)
    (names : List String) :
    lookupAny pairs (name :: names) = (lookup pairs name).or (lookupAny pairs names) := by
  unfold lookupAny
  rw [List.findSome?_cons]
  cases lookup pairs name <;> rfl

mutual

/-- Whether two documents count as the same mapping key.  The order of a mapping inside a key does
not matter, and a tagged document never equals an untagged one. -/
def sameKey : Document → Document → Bool
  | null, null => true
  | bool a, bool b => a == b
  | number a, number b => a.sameKey b
  | string a, string b => a == b
  | sequence as, sequence bs => sameItems as bs
  | mapping as, mapping bs => as.length == bs.length && samePairs as bs
  | tagged s a, tagged t b => s == t && sameKey a b
  | _, _ => false

/-- Whether two sequences hold the same keys one by one. -/
def sameItems : List Document → List Document → Bool
  | [], [] => true
  | a :: as, b :: bs => sameKey a b && sameItems as bs
  | _, _ => false

/-- Whether every pair of the first mapping occurs in the second. -/
def samePairs : List (Document × Document) → List (Document × Document) → Bool
  | [], _ => true
  | (k, v) :: rest, bs => bs.any (fun b => sameKey k b.1 && sameKey v b.2) && samePairs rest bs

end

/-- Sets the value of a key: a key that is there keeps its place, and a new one goes to the end. -/
def setPair (pairs : List (Document × Document)) (key value : Document) :
    List (Document × Document) :=
  if pairs.any (sameKey key ·.1) then
    pairs.map fun p => if sameKey key p.1 then (p.1, value) else p
  else pairs ++ [(key, value)]

end Document

end ThemeOptions
