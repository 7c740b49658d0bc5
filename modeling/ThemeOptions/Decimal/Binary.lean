/-!
# The exact value of a 64-bit float

`Binary.ofFloat` takes the bits of a float apart, so that everything said about decimal texts can be
computed in whole numbers.
-/

namespace ThemeOptions.Decimal

/-- What the bits of a float stand for. -/
inductive Binary where
  | nan
  | infinite (negative : Bool)
  /-- The number `mantissa · 2 ^ exponent`, or its negative. -/
  | finite (negative : Bool) (mantissa : Nat) (exponent : Int)
deriving DecidableEq, Repr

/-- The number of bits of a mantissa that are stored. -/
def storedBits : Nat := 52

/-- The least exponent of two, that of the numbers nearest to zero. -/
def leastExponent : Int := -1074

/-- The parts of a float: one sign bit, eleven bits of exponent, fifty-two of mantissa, to which a
leading one belongs unless the exponent bits are all zero. -/
def Binary.ofFloat (x : Float) : Binary :=
  let bits := x.toBits.toNat
  let negative := bits / Nat.pow 2 63 % 2 == 1
  let stored := bits / Nat.pow 2 storedBits % 2048
  let fraction := bits % Nat.pow 2 storedBits
  if stored = 2047 then
    if fraction = 0 then .infinite negative else .nan
  else if stored = 0 then .finite negative fraction leastExponent
  else .finite negative (Nat.pow 2 storedBits + fraction) (stored + leastExponent - 1)

/-- Neither infinite nor without a value. -/
def isFinite (x : Float) : Bool :=
  match Binary.ofFloat x with
  | .finite .. => true
  | _ => false

/-- The whole number nearest to `mantissa · 2 ^ exponent`; a half goes away from zero. -/
def nearestWhole (mantissa : Nat) (exponent : Int) : Nat :=
  if 0 ≤ exponent then mantissa * Nat.pow 2 exponent.toNat
  else
    let unit := Nat.pow 2 (-exponent).toNat
    (mantissa + unit / 2) / unit

/-- The whole number nearest to a finite float as a float; a half goes away from zero, and the
sign stays, also that of zero. -/
def roundWhole (x : Float) : Float :=
  match Binary.ofFloat x with
  | .finite negative mantissa exponent =>
    let whole := Float.ofNat (nearestWhole mantissa exponent)
    if negative then -whole else whole
  | _ => x

/-- The signed 32-bit number nearest to a float: a half goes away from zero, what is out of range
goes to the nearer end of the range, and a float without a value goes to zero. -/
def toInt32 (x : Float) : Int32 :=
  match Binary.ofFloat x with
  | .nan => 0
  | .infinite negative => if negative then Int32.minValue else Int32.maxValue
  | .finite negative mantissa exponent =>
    let whole : Int := nearestWhole mantissa exponent
    let signed := if negative then -whole else whole
    Int32.ofInt (max Int32.minValue.toInt (min Int32.maxValue.toInt signed))

end ThemeOptions.Decimal
