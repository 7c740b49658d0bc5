import ThemeOptions.Decimal.Shortest

/-!
# Writing a float in decimal

A `Layout` holds the choices that one text format makes: which magnitudes are written without an
exponent, whether a whole number keeps its point, how an exponent is marked.  `Layout.write` writes
the fewest digits that read back in that layout.
-/

namespace ThemeOptions.Decimal

/-- The choices of one text format for floats. -/
structure Layout where
  /-- Whether a number whose leading digit has this place value, as a power of ten, is written
  without an exponent. -/
  positional : Int → Bool
  /-- Whether a whole number written without an exponent ends in a point and a zero. -/
  pointZero : Bool
  /-- What stands before an exponent that is not negative. -/
  mark : String
  tie : Tie
  nan : String
  infinite : Bool → String

/-- Digits with the decimal point after the first `point` of them; a place without a digit gets a
zero. -/
def placePoint (pointZero : Bool) (digits : List Char) (point : Int) : List Char :=
  if point ≤ 0 then '0' :: '.' :: (List.replicate (-point).toNat '0' ++ digits)
  else if digits.length ≤ point.toNat then
    digits ++ List.replicate (point.toNat - digits.length) '0' ++
      (if pointZero then ['.', '0'] else [])
  else digits.take point.toNat ++ '.' :: digits.drop point.toNat

/-- Digits with the decimal point after the first of them. -/
def afterFirst : List Char → List Char
  | d :: d' :: rest => d :: '.' :: d' :: rest
  | ds => ds

/-- A decimal that is not negative, in a layout. -/
def Layout.writeDigits (l : Layout) (d : Digits) : List Char :=
  let digits := Nat.toDigits 10 d.digits
  let leading := digits.length + d.exponent - 1
  if l.positional leading then placePoint l.pointZero digits (leading + 1)
  else
    afterFirst digits ++
      (if 0 ≤ leading then l.mark.toList ++ Nat.toDigits 10 leading.toNat
        else 'e' :: '-' :: Nat.toDigits 10 (-leading).toNat)

/-- The characters of a float in a layout; zero keeps its sign. -/
def Layout.writeChars (l : Layout) (x : Float) : List Char :=
  match Binary.ofFloat x with
  | .nan => l.nan.toList
  | .infinite negative => (l.infinite negative).toList
  | .finite negative mantissa exponent =>
    let sign := if negative then ['-'] else []
    if mantissa = 0 then sign ++ l.writeDigits ⟨0, 0⟩
    else sign ++ l.writeDigits (shortest l.tie mantissa exponent)

theorem placePoint_ne_nil {digits : List Char} (h : digits ≠ []) (pointZero : Bool) (point : Int) :
    placePoint pointZero digits point ≠ [] := by
  unfold placePoint
  split
  · exact List.cons_ne_nil _ _
  · split
    · simp [h]
    · simp

theorem afterFirst_ne_nil {digits : List Char} (h : digits ≠ []) : afterFirst digits ≠ [] := by
  unfold afterFirst
  split
  · exact List.cons_ne_nil _ _
  · exact h

theorem Layout.writeDigits_ne_nil (l : Layout) (d : Digits) : l.writeDigits d ≠ [] := by
  have hdigits : Nat.toDigits 10 d.digits ≠ [] := Nat.toDigits_ne_nil
  unfold writeDigits
  simp only
  split
  · exact placePoint_ne_nil hdigits _ _
  · exact List.append_ne_nil_of_left_ne_nil (afterFirst_ne_nil hdigits) _

/-- A float as text in a layout. -/
def Layout.write (l : Layout) (x : Float) : String :=
  String.ofList (l.writeChars x)

theorem Layout.write_ne_empty {l : Layout} (hnan : l.nan ≠ "")
    (hinfinite : ∀ negative, l.infinite negative ≠ "") (x : Float) : l.write x ≠ "" := by
  have htext {s : String} (hs : s ≠ "") : s.toList ≠ [] := mt String.toList_eq_nil_iff.mp hs
  rw [write, ne_eq, String.ofList_eq_empty_iff]
  unfold writeChars
  split
  · exact htext hnan
  · exact htext (hinfinite _)
  · simp only
    split
    · exact List.append_ne_nil_of_right_ne_nil _ (l.writeDigits_ne_nil _)
    · exact List.append_ne_nil_of_right_ne_nil _ (l.writeDigits_ne_nil _)

/-- Digits without any exponent and without a needless point. -/
def Layout.plain : Layout where
  positional _ := true
  pointZero := false
  mark := "e"
  tie := .up
  nan := "NaN"
  infinite negative := if negative then "-inf" else "inf"

end ThemeOptions.Decimal
