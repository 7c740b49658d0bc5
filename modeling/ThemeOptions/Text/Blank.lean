/-!
# Blank characters

The characters with the Unicode property White_Space, and trimming by them.  Every text that the
library trims is trimmed here, so a no-break space or an ideographic space counts like a blank,
while a zero-width space or a byte-order mark does not.
-/

namespace ThemeOptions.Text

/-- The characters with the Unicode property White_Space. -/
def isBlank (c : Char) : Bool :=
  let n := c.toNat
  (9 ≤ n && n ≤ 13) || n == 0x20 || n == 0x85 || n == 0xA0 || n == 0x1680 ||
    (0x2000 ≤ n && n ≤ 0x200A) || n == 0x2028 || n == 0x2029 || n == 0x202F || n == 0x205F ||
    n == 0x3000

/-- The characters left when the blanks at both ends are dropped. -/
def trimChars (cs : List Char) : List Char :=
  ((cs.dropWhile isBlank).reverse.dropWhile isBlank).reverse

/-- A text without the blanks at its ends. -/
def trim (s : String) : String :=
  String.ofList (trimChars s.toList)

/-- A text without the blanks at its end. -/
def trimEnd (s : String) : String :=
  String.ofList (s.toList.reverse.dropWhile isBlank).reverse

/-- A text that holds blanks only, the empty text among them. -/
def blank (s : String) : Bool :=
  s.toList.all isBlank

/-- A text with its ASCII capitals made small; every other character stays. -/
def lower (s : String) : String :=
  String.ofList (s.toList.map Char.toLower)

/-- The words that switch something on, in any ASCII case and with blanks around them. -/
def isTruthy (s : String) : Bool :=
  ["1", "true", "yes", "on"].contains (lower (trim s))

theorem dropWhile_eq_nil_iff (p : Char → Bool) (cs : List Char) :
    cs.dropWhile p = [] ↔ cs.all p = true := by
  induction cs with
  | nil => simp
  | cons c cs ih => cases h : p c <;> simp [List.dropWhile, h, ih]

/-- Trimming leaves nothing exactly when there are blanks only. -/
theorem trimChars_eq_nil_iff (cs : List Char) : trimChars cs = [] ↔ cs.all isBlank = true := by
  rw [trimChars, List.reverse_eq_nil_iff, dropWhile_eq_nil_iff, List.all_reverse]
  induction cs with
  | nil => simp
  | cons c cs ih =>
    cases h : isBlank c
    · simp [List.dropWhile, h]
    · simp [List.dropWhile, h, ih]

theorem trim_eq_empty_iff {s : String} : trim s = "" ↔ blank s = true := by
  rw [trim, String.ofList_eq_empty_iff, trimChars_eq_nil_iff, blank]

end ThemeOptions.Text
