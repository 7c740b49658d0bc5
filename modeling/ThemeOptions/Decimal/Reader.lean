import ThemeOptions.Text.Blank

/-!
# Reading a decimal text as a float

The grammar is an optional sign and then either one of the words `inf`, `infinity` and `nan` in any
ASCII case, or digits with an optional point somewhere among or around them and an optional
exponent.  At least one digit stands beside the point, and at least one in an exponent.  The value
is the float nearest to the decimal.
-/

namespace ThemeOptions.Decimal

/-- The number that decimal digits spell. -/
def digitsValue (ds : List Char) : Nat :=
  ds.foldl (fun n d => 10 * n + (d.toNat - 48)) 0

/-- The float nearest to `mantissa · 10 ^ exponent`.  Beyond the largest and the least float the
power of ten need not be computed. -/
def nearestFloat (mantissa : Nat) (exponent : Int) : Float :=
  if mantissa = 0 then 0
  else
    let leading := (Nat.toDigits 10 mantissa).length + exponent
    if 310 < leading then 1 / 0
    else if leading < -330 then 0
    else Float.ofScientific mantissa (exponent < 0) exponent.natAbs

/-- An optional sign: whether it is a minus, and what follows. -/
def splitSign : List Char → Bool × List Char
  | '+' :: cs => (false, cs)
  | '-' :: cs => (true, cs)
  | cs => (false, cs)

/-- The leading digits of a text, and what follows. -/
def splitDigits (cs : List Char) : List Char × List Char :=
  (cs.takeWhile Char.isDigit, cs.dropWhile Char.isDigit)

/-- Digits on both sides of an optional point, and what follows. -/
def splitFraction (cs : List Char) : List Char × List Char × List Char :=
  let (whole, rest) := splitDigits cs
  match rest with
  | '.' :: rest =>
    let (fraction, rest) := splitDigits rest
    (whole, fraction, rest)
  | _ => (whole, [], rest)

/-- The exponent that a text holds, zero for the empty text. -/
def readExponent : List Char → Option Int
  | [] => some 0
  | c :: cs =>
    if c == 'e' || c == 'E' then
      let (negative, ds) := splitSign cs
      if ds.isEmpty || !ds.all Char.isDigit then none
      else some (if negative then -(digitsValue ds : Int) else digitsValue ds)
    else none

/-- A decimal without a sign. -/
def readUnsigned (cs : List Char) : Option Float :=
  let (whole, fraction, rest) := splitFraction cs
  if whole.isEmpty && fraction.isEmpty then none
  else (readExponent rest).map fun e =>
    nearestFloat (digitsValue (whole ++ fraction)) (e - fraction.length)

/-- The words for floats that no digits spell. -/
def readWord (cs : List Char) : Option Float :=
  let word := cs.map Char.toLower
  if word == "inf".toList || word == "infinity".toList then some (1 / 0)
  else if word == "nan".toList then some (0 / 0)
  else none

/-- Reads the characters of a decimal text. -/
def readChars (cs : List Char) : Option Float :=
  let (negative, cs) := splitSign cs
  match (readWord cs).or (readUnsigned cs) with
  | some x => some (if negative then -x else x)
  | none => none

/-- The float nearest to what a decimal text spells. -/
def read? (s : String) : Option Float :=
  readChars s.toList

end ThemeOptions.Decimal
