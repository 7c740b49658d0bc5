import ThemeOptions.Decimal.Binary

/-!
# The fewest digits that read back

`shortest` finds, for the positive number `mantissa · 2 ^ exponent`, the decimal with the fewest
digits among those that round to it, and of these the nearest to it.  The reals that round to it
form an interval, whose ends belong to it when the mantissa is even.  On each decimal grid, from the
next power of ten down to seventeen digits, only the two neighbours of the number can be the answer,
and the first grid with a neighbour in the interval wins.
-/

namespace ThemeOptions.Decimal

/-- Which of two equally near decimals is taken. -/
inductive Tie where
  | up
  | even
deriving DecidableEq, Repr

/-- A decimal `digits · 10 ^ exponent`. -/
structure Digits where
  digits : Nat
  exponent : Int
deriving DecidableEq, Repr

/-- The interval of the reals that round to one float, as quarters of its last binary place: all
fractions have the same denominator. -/
structure Interval where
  low : Nat
  value : Nat
  high : Nat
  denominator : Nat
  /-- Whether the two ends belong to it. -/
  closed : Bool

/-- The reals that round to `mantissa · 2 ^ exponent`.  Below a power of two the floats are twice
as dense, so the lower end is nearer there, except at the least exponent. -/
def Interval.around (mantissa : Nat) (exponent : Int) : Interval :=
  let atPower := mantissa == Nat.pow 2 storedBits && leastExponent < exponent
  let unit := Nat.pow 2 (exponent - 2).toNat
  { low := (4 * mantissa - if atPower then 1 else 2) * unit
    value := 4 * mantissa * unit
    high := (4 * mantissa + 2) * unit
    denominator := Nat.pow 2 (2 - exponent).toNat
    closed := mantissa % 2 == 0 }

/-- Whether `digits · 10 ^ exponent` lies in the interval. -/
def Interval.holds (i : Interval) (d : Digits) : Bool :=
  let point := d.digits * Nat.pow 10 d.exponent.toNat * i.denominator
  let scale := Nat.pow 10 (-d.exponent).toNat
  if i.closed then i.low * scale ≤ point && point ≤ i.high * scale
  else i.low * scale < point && point < i.high * scale

/-- How many decimal digits a positive whole number has. -/
def digitCount (n : Nat) : Nat :=
  (Nat.toDigits 10 n).length

/-- The `k` with `10 ^ k ≤ value < 10 ^ (k + 1)`. -/
def Interval.magnitude (i : Interval) : Int :=
  if i.denominator ≤ i.value then digitCount (i.value / i.denominator) - 1
  else -(digitCount ((i.denominator - 1) / i.value))

/-- The last point of the decimal grid `10 ^ exponent` that is not above the value, and twice its
distance from the value in parts of the grid's step: negative below a half, zero at a half. -/
def Interval.floor (i : Interval) (exponent : Int) : Nat × Int :=
  let top := i.value * Nat.pow 10 (-exponent).toNat
  let bottom := i.denominator * Nat.pow 10 exponent.toNat
  (top / bottom, 2 * (top % bottom : Nat) - (bottom : Int))

/-- The answer on one decimal grid: the one neighbour of the value that lies in the interval, or
the nearer one of two. -/
def Interval.onGrid (i : Interval) (tie : Tie) (exponent : Int) : Option Digits :=
  let (below, half) := i.floor exponent
  let lower : Digits := ⟨below, exponent⟩
  let upper : Digits := ⟨below + 1, exponent⟩
  match i.holds lower, i.holds upper with
  | false, false => none
  | true, false => some lower
  | false, true => some upper
  | true, true =>
    if half < 0 then some lower
    else if 0 < half then some upper
    else match tie with
      | .up => some upper
      | .even => if below % 2 == 0 then some lower else some upper

/-- The fewest digits that read back as the positive float `mantissa · 2 ^ exponent`, and the
nearest among these.  Seventeen digits always do. -/
def shortest (tie : Tie) (mantissa : Nat) (exponent : Int) : Digits :=
  let i := Interval.around mantissa exponent
  let top := i.magnitude
  let grids := (List.range 18).map fun n : Nat => top + 1 - n
  match grids.findSome? (i.onGrid tie) with
  | some d => d
  | none => ⟨(i.floor (top - 16)).1, top - 16⟩

end ThemeOptions.Decimal
