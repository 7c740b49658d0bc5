import Mathlib.Data.List.TakeWhile
import ThemeOptions.Css.Fragment

/-!
# The readers of CSS tokens

Equations for the readers that pass escapes, in which they go on behind an escape in the rest of the
text, and what the readers of numbers and names make of a text with more text behind it.

No name, no number and no mark goes on over a character that is a stop (`isStop`), so a reader that
looks at the next character only finds the same with stops behind the text.
-/

namespace ThemeOptions.Css

/-! ### Spaces and stops -/

theorem isSpace_cases {c : Char} (h : isSpace c = true) :
    c = ' ' ∨ c = '\t' ∨ c = '\n' ∨ c = '\r' ∨ c = '\x0c' := by
  simpa [isSpace, isLineBreak, or_assoc] using h

theorem isSpace_of_isLineBreak {c : Char} (h : isLineBreak c = true) : isSpace c = true := by
  simp [isSpace, h]

/-- A character with which no token goes on, unless it is inside a text, a comment or an address, or
behind a backslash. -/
def isStop (c : Char) : Bool := isSpace c || c == ':' || c == ';' || c == '\x7b' || c == '/'

theorem isStop_cases {c : Char} (h : isStop c = true) :
    isSpace c = true ∨ c = ':' ∨ c = ';' ∨ c = '\x7b' ∨ c = '/' := by
  simpa [isStop, or_assoc] using h

theorem isStop_of_isSpace {c : Char} (h : isSpace c = true) : isStop c = true := by
  simp [isStop, h]

/-- What holds of the five spaces and the four other stops holds of all stops. -/
theorem forall_isStop {P : Char → Prop} [DecidablePred P]
    (h : " \t\n\r\x0c:;\x7b/".toList.all (P ·) = true) {c : Char} (hc : isStop c = true) :
    P c := by
  refine of_decide_eq_true (List.all_eq_true.mp h c ?_)
  rcases isStop_cases hc with hspace | rfl | rfl | rfl | rfl
  · rcases isSpace_cases hspace with rfl | rfl | rfl | rfl | rfl <;> decide
  all_goals decide

theorem isHex_of_isStop {c : Char} (h : isStop c = true) : isHex c = false :=
  forall_isStop (P := fun c => isHex c = false) (by decide) h

theorem isDigit_of_isStop {c : Char} (h : isStop c = true) : c.isDigit = false :=
  forall_isStop (P := fun c => c.isDigit = false) (by decide) h

theorem isNameStart_of_isStop {c : Char} (h : isStop c = true) : isNameStart c = false :=
  forall_isStop (P := fun c => isNameStart c = false) (by decide) h

theorem isNameChar_of_isStop {c : Char} (h : isStop c = true) : isNameChar c = false :=
  forall_isStop (P := fun c => isNameChar c = false) (by decide) h

/-- A character that is no stop is none of the stops. -/
theorem ne_of_isStop {c d : Char} (h : isStop c = true) (hd : isStop d = false) : c ≠ d := by
  rintro rfl
  exact absurd (h.symm.trans hd) (by decide)

theorem startsName_of_isStop {c : Char} (h : isStop c = true) (cs : List Char) :
    startsName (c :: cs) = false := by
  have hhyphen : c ≠ '-' := ne_of_isStop h (by decide)
  have hescape : c ≠ '\\' := ne_of_isStop h (by decide)
  simp [startsName, hhyphen, hescape, isNameStart_of_isStop h]

/-! ### Texts with more text behind them -/

theorem head?_append_of_ne {zs : List Char} {d : Char} (hd : zs.head? ≠ some d) (cs : List Char) :
    (cs ++ zs).head? = some d ↔ cs.head? = some d := by
  cases cs with
  | cons c cs => rfl
  | nil => exact ⟨fun h => absurd h hd, fun h => absurd h (by simp)⟩

theorem startsWithLineBreak_append {cs : List Char} (zs : List Char) (h : cs ≠ []) :
    startsWithLineBreak (cs ++ zs) = startsWithLineBreak cs := by
  cases cs with
  | nil => exact absurd rfl h
  | cons c cs => rfl

theorem startsName_of_ne {c : Char} (hhyphen : c ≠ '-') (hescape : c ≠ '\\') (cs : List Char) :
    startsName (c :: cs) = isNameStart c := by
  simp [startsName, hhyphen, hescape]

theorem dropSign_cons (c : Char) (cs : List Char) :
    dropSign (c :: cs) = if c = '+' ∨ c = '-' then cs else c :: cs := by
  unfold dropSign
  split <;> simp_all

theorem dropFraction_cons (c : Char) (cs : List Char) :
    dropFraction (c :: cs) =
      if c = '.' ∧ startsWithDigit cs = true then cs.dropWhile Char.isDigit else c :: cs := by
  unfold dropFraction
  split
  · simp_all
  · rename_i hne
    rw [if_neg fun h => hne cs (by rw [h.1])]

section

variable {zs : List Char} (hzs : ∀ c ∈ zs.head?, isStop c = true)
include hzs

theorem head?_append_stop {d : Char} (hd : isStop d = false) (cs : List Char) :
    (cs ++ zs).head? = some d ↔ cs.head? = some d :=
  head?_append_of_ne (fun h => ne_of_isStop (hzs d h) hd rfl) cs

/-- What no stop begins is in the text before it. -/
theorem prefix_of_append_stop (pre : List Char) (hpre : pre.any isStop = false)
    {cs rest : List Char} (h : cs ++ zs = pre ++ rest) : ∃ rest', cs = pre ++ rest' := by
  induction pre generalizing cs with
  | nil => exact ⟨cs, rfl⟩
  | cons d pre ih =>
    rw [List.any_cons, Bool.or_eq_false_iff] at hpre
    have hhead : (cs ++ zs).head? = some d := by rw [h]; rfl
    obtain ⟨cs', rfl⟩ :=
      List.head?_eq_some_iff.mp ((head?_append_stop hzs hpre.1 cs).mp hhead)
    obtain ⟨rest', rfl⟩ := ih hpre.2 (List.cons.inj h).2
    exact ⟨rest', rfl⟩

theorem dropWhile_append_stop {p : Char → Bool} (hp : ∀ c, isStop c = true → p c = false)
    (cs : List Char) : (cs ++ zs).dropWhile p = cs.dropWhile p ++ zs := by
  rw [List.dropWhile_append]
  split
  · rename_i h
    rw [List.isEmpty_iff.mp h, List.nil_append]
    cases zs with
    | nil => rfl
    | cons c zs =>
      rw [List.dropWhile_cons_of_neg]
      simp [hp c (hzs c rfl)]
  · rfl

theorem takeWhile_append_stop {p : Char → Bool} (hp : ∀ c, isStop c = true → p c = false)
    (cs : List Char) : (cs ++ zs).takeWhile p = cs.takeWhile p := by
  rw [List.takeWhile_append]
  split
  · rename_i h
    have hcs : cs.takeWhile p = cs := (List.takeWhile_prefix p).eq_of_length h
    have hnil : zs.takeWhile p = [] := by
      cases zs with
      | nil => rfl
      | cons c zs => exact List.takeWhile_cons_of_neg (by simp [hp c (hzs c rfl)])
    rw [hnil, List.append_nil, hcs]
  · rfl

theorem takeWhile_take_append_stop {p : Char → Bool} (hp : ∀ c, isStop c = true → p c = false)
    (n : Nat) (cs : List Char) :
    ((cs ++ zs).take n).takeWhile p = (cs.take n).takeWhile p := by
  rw [List.take_append]
  refine takeWhile_append_stop (fun c hc => hzs c ?_) hp _
  cases h : n - cs.length with
  | zero => simp [h] at hc
  | succ k => simpa [h, List.head?_take] using hc

theorem startsWithDigit_append (cs : List Char) :
    startsWithDigit (cs ++ zs) = startsWithDigit cs := by
  cases cs with
  | cons c cs => rfl
  | nil =>
    cases zs with
    | nil => rfl
    | cons c zs => exact isDigit_of_isStop (hzs c rfl)

theorem dropSign_append (cs : List Char) : dropSign (cs ++ zs) = dropSign cs ++ zs := by
  cases cs with
  | cons c cs =>
    rw [List.cons_append, dropSign_cons, dropSign_cons]
    split <;> rfl
  | nil =>
    cases zs with
    | nil => rfl
    | cons c zs =>
      have hplus : c ≠ '+' := ne_of_isStop (hzs c rfl) (by decide)
      have hminus : c ≠ '-' := ne_of_isStop (hzs c rfl) (by decide)
      rw [List.nil_append, dropSign_cons, if_neg (by simp [hplus, hminus])]
      rfl

theorem dropFraction_append (cs : List Char) :
    dropFraction (cs ++ zs) = dropFraction cs ++ zs := by
  cases cs with
  | cons c cs =>
    rw [List.cons_append, dropFraction_cons, dropFraction_cons, startsWithDigit_append hzs]
    split
    · exact dropWhile_append_stop hzs (fun _ => isDigit_of_isStop) cs
    · rfl
  | nil =>
    cases zs with
    | nil => rfl
    | cons c zs =>
      have hpoint : c ≠ '.' := ne_of_isStop (hzs c rfl) (by decide)
      rw [List.nil_append, dropFraction_cons, if_neg (by simp [hpoint])]
      rfl

theorem dropExponent_append (cs : List Char) :
    dropExponent (cs ++ zs) = dropExponent cs ++ zs := by
  cases cs with
  | cons c cs =>
    rw [List.cons_append, dropExponent, dropExponent, dropSign_append hzs,
      startsWithDigit_append hzs]
    split
    · exact dropWhile_append_stop hzs (fun _ => isDigit_of_isStop) _
    · rfl
  | nil =>
    cases zs with
    | nil => rfl
    | cons c zs =>
      have hsmall : c ≠ 'e' := ne_of_isStop (hzs c rfl) (by decide)
      have hcapital : c ≠ 'E' := ne_of_isStop (hzs c rfl) (by decide)
      rw [List.nil_append, dropExponent, if_neg (by simp [hsmall, hcapital])]
      rfl

theorem dropNumber_append (cs : List Char) : dropNumber (cs ++ zs) = dropNumber cs ++ zs := by
  unfold dropNumber
  rw [dropSign_append hzs, dropWhile_append_stop hzs (fun _ => isDigit_of_isStop),
    dropFraction_append hzs, dropExponent_append hzs]

theorem startsNumber_append (cs : List Char) : startsNumber (cs ++ zs) = startsNumber cs := by
  unfold startsNumber
  rw [dropSign_append hzs]
  cases dropSign cs with
  | cons c cs =>
    by_cases hpoint : c = '.'
    · subst hpoint
      exact startsWithDigit_append hzs cs
    · rw [List.cons_append]
      split
      · rename_i hcs
        exact absurd (List.cons.inj hcs).1 hpoint
      · split
        · rename_i hcs
          exact absurd (List.cons.inj hcs).1 hpoint
        · rfl
  | nil =>
    cases zs with
    | nil => rfl
    | cons c zs =>
      rw [List.nil_append]
      split
      · rename_i hcs
        exact absurd (List.cons.inj hcs).1 (ne_of_isStop (hzs c rfl) (by decide))
      · exact isDigit_of_isStop (hzs c rfl)

theorem startsName_append {cs : List Char} (h : cs ≠ ['\\']) :
    startsName (cs ++ zs) = startsName cs := by
  match cs with
  | [] =>
    cases zs with
    | nil => rfl
    | cons c zs => exact startsName_of_isStop (hzs c rfl) zs
  | [c] =>
    by_cases hc : c = '-'
    · subst hc
      cases zs with
      | nil => rfl
      | cons d zs =>
        have hhyphen : d ≠ '-' := ne_of_isStop (hzs d rfl) (by decide)
        have hescape : d ≠ '\\' := ne_of_isStop (hzs d rfl) (by decide)
        simp [startsName, hhyphen, hescape, isNameStart_of_isStop (hzs d rfl)]
    · have hescape : c ≠ '\\' := fun e => h (by rw [e])
      rw [List.singleton_append, startsName_of_ne hc hescape, startsName_of_ne hc hescape]
  | c :: d :: cs => rfl

theorem takeMatcher_append (c : Char) (cs : List Char) :
    takeMatcher c (cs ++ zs) = ((takeMatcher c cs).1, (takeMatcher c cs).2 ++ zs) := by
  by_cases h : cs.head? = some '='
  · obtain ⟨rest, rfl⟩ := List.head?_eq_some_iff.mp h
    rfl
  · have hother {l : List Char} (hl : l.head? ≠ some '=') : takeMatcher c l = (.delim c, l) := by
      unfold takeMatcher
      split
      · exact absurd rfl hl
      · rfl
    rw [hother h, hother fun e => h ((head?_append_stop hzs (by decide) cs).mp e)]

end

/-! ### Readers that pass escapes -/

/-- A reader with characters to skip reads the text behind them. -/
theorem read_eq_drop {α : Type} {read : Nat → List Char → α}
    (hend : ∀ k, read (k + 1) [] = read 0 [])
    (hskip : ∀ k c cs, read (k + 1) (c :: cs) = read k cs) (k : Nat) (cs : List Char) :
    read k cs = read 0 (cs.drop k) := by
  induction cs generalizing k with
  | nil =>
    rw [List.drop_nil]
    cases k with
    | zero => rfl
    | succ k => exact hend k
  | cons c cs ih =>
    cases k with
    | zero => rfl
    | succ k => rw [hskip, List.drop_succ_cons, ih]

/-- What follows one blank, if there is one. -/
def dropSpace : List Char → List Char
  | c :: cs => if isLineBreak c then dropLineBreak (c :: cs) else if isSpace c then cs else c :: cs
  | [] => []

/-- What an escape leaves of the text behind the backslash. -/
def behindEscape (cs : List Char) : List Char :=
  cs.drop (cs.length - (takeEscape cs).2.length)

theorem takeEscape_of_isHex {c : Char} {rest : List Char} (h : isHex c = true) :
    takeEscape (c :: rest) =
      (charOfCode (hexValue (((c :: rest).take 6).takeWhile isHex)),
        dropSpace ((c :: rest).drop (((c :: rest).take 6).takeWhile isHex).length)) := by
  rw [takeEscape, if_pos h]
  dsimp only
  generalize (c :: rest).drop (((c :: rest).take 6).takeWhile isHex).length = after
  cases after <;> rfl

theorem takeName_eq_drop (k : Nat) (cs : List Char) : takeName k cs = takeName 0 (cs.drop k) :=
  read_eq_drop (fun _ => rfl) (fun _ _ _ => rfl) k cs

theorem takeName_escape {cs : List Char} (h : startsWithLineBreak cs = false) :
    takeName 0 ('\\' :: cs) =
      Prod.map ((takeEscape cs).1 :: ·) id (takeName 0 (behindEscape cs)) := by
  rw [takeName, if_pos (beq_self_eq_true _), if_neg (by simp [h]), behindEscape,
    ← takeName_eq_drop]
  rfl

theorem takeName_lineBreak {cs : List Char} (h : startsWithLineBreak cs = true) :
    takeName 0 ('\\' :: cs) = ([], '\\' :: cs) := by
  rw [takeName, if_pos (beq_self_eq_true _), if_pos h]

theorem takeName_of_ne {c : Char} (h : c ≠ '\\') (cs : List Char) :
    takeName 0 (c :: cs) =
      if isNameChar c then
        Prod.map ((if c == '\x00' then replacement else c) :: ·) id (takeName 0 cs)
      else ([], c :: cs) := by
  rw [takeName, if_neg (by simpa using h)]
  rfl

theorem takeName_of_stop {zs : List Char} (hzs : ∀ c ∈ zs.head?, isStop c = true) :
    takeName 0 zs = ([], zs) := by
  cases zs with
  | nil => rfl
  | cons c zs =>
    have hc : isStop c = true := hzs c rfl
    rw [takeName_of_ne (ne_of_isStop hc (by decide)), if_neg (by simp [isNameChar_of_isStop hc])]

theorem takeQuoted_eq_drop (quote : Char) (k : Nat) (cs : List Char) :
    takeQuoted quote k cs = takeQuoted quote 0 (cs.drop k) :=
  read_eq_drop (fun _ => rfl) (fun _ _ _ => rfl) k cs

theorem takeQuoted_escape {quote : Char} {cs : List Char} (hquote : quote ≠ '\\') (hcs : cs ≠ [])
    (h : startsWithLineBreak cs = false) :
    takeQuoted quote 0 ('\\' :: cs) = Prod.map (Option.map ((takeEscape cs).1 :: ·)) id
      (takeQuoted quote 0 (behindEscape cs)) := by
  rw [takeQuoted, if_neg (by simpa using hquote.symm), if_neg (by decide),
    if_pos (beq_self_eq_true _), if_neg (by simpa using hcs), if_neg (by simp [h]), behindEscape,
    ← takeQuoted_eq_drop]
  rfl

theorem takeQuoted_lineBreak {quote : Char} {cs : List Char} (hquote : quote ≠ '\\')
    (h : startsWithLineBreak cs = true) :
    takeQuoted quote 0 ('\\' :: cs) =
      takeQuoted quote 0 (cs.drop (cs.length - (dropLineBreak cs).length)) := by
  have hcs : cs ≠ [] := by
    rintro rfl
    exact absurd h (by decide)
  rw [takeQuoted, if_neg (by simpa using hquote.symm), if_neg (by decide),
    if_pos (beq_self_eq_true _), if_neg (by simpa using hcs), if_pos h, ← takeQuoted_eq_drop]

theorem takeQuoted_end {quote : Char} (hquote : quote ≠ '\\') :
    takeQuoted quote 0 ['\\'] = (some [], []) := by
  rw [takeQuoted, if_neg (by simpa using hquote.symm)]
  rfl

theorem takeQuoted_of_ne {quote c : Char} (h : c ≠ '\\') (cs : List Char) :
    takeQuoted quote 0 (c :: cs) =
      if c == quote then (some [], cs)
      else if isLineBreak c then (none, c :: cs)
      else Prod.map (Option.map ((if c == '\x00' then replacement else c) :: ·)) id
        (takeQuoted quote 0 cs) := by
  rw [takeQuoted, if_neg (c := (c == '\\') = true) (by simpa using h)]
  rfl

theorem takeUrl_eq_drop (k : Nat) (cs : List Char) : takeUrl k cs = takeUrl 0 (cs.drop k) :=
  read_eq_drop (fun _ => rfl) (fun _ _ _ => rfl) k cs

theorem takeUrl_escape {cs : List Char} (h : startsWithLineBreak cs = false) :
    takeUrl 0 ('\\' :: cs) = Prod.map (Option.map ((takeEscape cs).1 :: ·)) id
      (takeUrl 0 (behindEscape cs)) := by
  rw [takeUrl, if_neg (by decide), if_neg (by decide), if_neg (by decide),
    if_pos (beq_self_eq_true _), if_neg (by simp [h]), behindEscape, ← takeUrl_eq_drop]
  rfl

theorem takeUrl_lineBreak {cs : List Char} (h : startsWithLineBreak cs = true) :
    takeUrl 0 ('\\' :: cs) = (none, dropBadUrl cs) := by
  rw [takeUrl, if_neg (by decide), if_neg (by decide), if_neg (by decide),
    if_pos (beq_self_eq_true _), if_pos h]

/-- What follows the blanks inside an address: only its end may. -/
def takeUrlEnd (cs : List Char) : Option (List Char) × List Char :=
  match cs.dropWhile isSpace with
  | [] => (some [], [])
  | ')' :: rest => (some [], rest)
  | _ :: rest => (none, dropBadUrl rest)

theorem takeUrlEnd_of_cons {cs rest : List Char} {d : Char}
    (h : cs.dropWhile isSpace = d :: rest) :
    takeUrlEnd cs = if d = ')' then (some [], rest) else (none, dropBadUrl rest) := by
  unfold takeUrlEnd
  rw [h]
  split <;> simp_all

theorem takeUrl_of_ne {c : Char} (h : c ≠ '\\') (cs : List Char) :
    takeUrl 0 (c :: cs) =
      if c == ')' then (some [], cs)
      else if isSpace c then takeUrlEnd cs
      else if isBadInUrl c then (none, dropBadUrl cs)
      else Prod.map (Option.map ((if c == '\x00' then replacement else c) :: ·)) id
        (takeUrl 0 cs) := by
  rw [takeUrl, if_neg (c := (c == '\\') = true) (by simpa using h)]
  rfl

theorem dropComment_cons {c : Char} {cs : List Char} (h : ¬(c = '*' ∧ cs.head? = some '/')) :
    dropComment (c :: cs) = dropComment cs := by
  refine dropComment.eq_2 c cs fun rest hc hrest => h ⟨hc, ?_⟩
  rw [hrest]
  rfl

/-! ### Readers of tokens -/

/-- The token for an address, which is none if it is bad. -/
def Token.ofUrl : Option (List Char) → Token
  | some text => .url (String.ofList text)
  | none => .badUrl

/-- The token for a quoted text, which is none if a line break cuts it off. -/
def Token.ofQuoted : Option (List Char) → Token
  | some text => .quoted (String.ofList text)
  | none => .badString

theorem takeString_eq (quote : Char) (cs : List Char) :
    takeString quote cs = Prod.map Token.ofQuoted id (takeQuoted quote 0 cs) := by
  unfold takeString
  cases takeQuoted quote 0 cs with
  | mk text rest => cases text <;> rfl

/-- What a name is together with the bracket behind it. -/
def takeArguments (name arguments : List Char) : Token × List Char :=
  if name.map Char.toLower == "url".toList then
    match arguments.dropWhile isSpace with
    | [] => (.url "", [])
    | c :: more =>
      if c == '"' || c == '\'' then (.function (String.ofList name), arguments)
      else Prod.map Token.ofUrl id (takeUrl 0 (c :: more))
  else (.function (String.ofList name), arguments)

theorem takeNamed_of_bracket {cs name arguments : List Char}
    (h : takeName 0 cs = (name, '(' :: arguments)) :
    takeNamed cs = takeArguments name arguments := by
  unfold takeNamed
  rw [h]
  show (if (name.map Char.toLower == "url".toList) = true then _ else _) = _
  unfold takeArguments
  split
  · cases arguments.dropWhile isSpace with
    | nil => rfl
    | cons c more =>
      dsimp only
      split
      · rfl
      · cases takeUrl 0 (c :: more) with
        | mk text rest => cases text <;> rfl
  · rfl

theorem takeNamed_of_ne {cs name rest : List Char} (h : takeName 0 cs = (name, rest))
    (hrest : rest.head? ≠ some '(') : takeNamed cs = (.ident (String.ofList name), rest) := by
  unfold takeNamed
  rw [h]
  dsimp only
  split
  · exact absurd rfl hrest
  · rfl

/-- What a number is together with what belongs to it. -/
def takeUnit (text : String) (rest : List Char) : Token × List Char :=
  match rest with
  | '%' :: more => (.percentage text, more)
  | _ =>
    if startsName rest then
      Prod.map (fun unit => .dimension text (String.ofList unit)) id (takeName 0 rest)
    else (.number text, rest)

theorem takeUnit_of_ne {text : String} {rest : List Char} (h : rest.head? ≠ some '%') :
    takeUnit text rest =
      if startsName rest then
        Prod.map (fun unit => .dimension text (String.ofList unit)) id (takeName 0 rest)
      else (.number text, rest) := by
  unfold takeUnit
  split
  · exact absurd rfl h
  · rfl

theorem takeNumeric_eq (cs : List Char) :
    takeNumeric cs =
      takeUnit (String.ofList (cs.take (cs.length - (dropNumber cs).length))) (dropNumber cs) := rfl

/-- A token that starts with none of the marks: a name, or the character alone. -/
def takeOther (c : Char) (cs : List Char) : Token × List Char :=
  match c, cs with
  | '-', '-' :: '>' :: rest => (.htmlClose, rest)
  | _, _ => if startsName (c :: cs) then takeNamed (c :: cs) else (.delim c, cs)

theorem takeOther_of_ne {c : Char} {cs : List Char}
    (h : ∀ rest, c :: cs ≠ '-' :: '-' :: '>' :: rest) :
    takeOther c cs = if startsName (c :: cs) then takeNamed (c :: cs) else (.delim c, cs) := by
  unfold takeOther
  split
  · exact absurd rfl (h _)
  · rfl

/-- A token that starts with a hash. -/
def takeHash (cs : List Char) : Token × List Char :=
  if startsName cs || startsWithDigit cs || cs.head? == some '-' then
    Prod.map (fun name => .hash (String.ofList name)) id (takeName 0 cs)
  else (.delim '#', cs)

/-- A token that starts with a slash. -/
def takeSlash (cs : List Char) : Token × List Char :=
  match cs with
  | '*' :: rest => (.comment, dropComment rest)
  | _ => (.delim '/', cs)

/-- A token that starts with a less-than sign. -/
def takeLess (cs : List Char) : Token × List Char :=
  match cs with
  | '!' :: '-' :: '-' :: rest => (.htmlOpen, rest)
  | _ => (.delim '<', cs)

/-- A token that starts with an at sign. -/
def takeAt (cs : List Char) : Token × List Char :=
  if startsName cs then
    Prod.map (fun name => .atKeyword (String.ofList name)) id (takeName 0 cs)
  else (.delim '@', cs)

/-- The reader of the tokens that start with this mark. -/
def takeMark (c : Char) : List Char → Token × List Char :=
  match c with
  | '"' => takeString '"'
  | '\'' => takeString '\''
  | '#' => takeHash
  | '(' => (.opening .round, ·)
  | ')' => (.closing .round, ·)
  | '[' => (.opening .square, ·)
  | ']' => (.closing .square, ·)
  | '{' => (.opening .curly, ·)
  | '}' => (.closing .curly, ·)
  | ',' => (.comma, ·)
  | ':' => (.colon, ·)
  | ';' => (.semicolon, ·)
  | '$' => takeMatcher '$'
  | '*' => takeMatcher '*'
  | '^' => takeMatcher '^'
  | '|' => takeMatcher '|'
  | '~' => takeMatcher '~'
  | '/' => takeSlash
  | '<' => takeLess
  | '@' => takeAt
  | c => takeOther c

theorem takeToken_eq (c : Char) (cs : List Char) :
    takeToken c cs =
      if isSpace c then (.blanks, cs.dropWhile isSpace)
      else if startsNumber (c :: cs) then takeNumeric (c :: cs)
      else takeMark c cs := by
  unfold takeToken
  split
  · rfl
  split
  · rfl
  split
  case h_21 =>
    show takeOther c cs = takeMark c cs
    unfold takeMark
    split <;> first | contradiction | rfl
  all_goals rfl

/-! ### What a token is -/

/-- A token that is no number, neither blanks nor a comment, and no semicolon. -/
def Token.isOther : Token → Bool
  | number _ | blanks | comment | semicolon => false
  | _ => true

theorem isOther_takeNamed (cs : List Char) : (takeNamed cs).1.isOther = true := by
  cases h : takeName 0 cs with
  | mk name rest =>
    by_cases hbracket : rest.head? = some '('
    · obtain ⟨arguments, rfl⟩ := List.head?_eq_some_iff.mp hbracket
      rw [takeNamed_of_bracket h]
      unfold takeArguments
      split
      · cases arguments.dropWhile isSpace with
        | nil => rfl
        | cons c more =>
          dsimp only
          split
          · rfl
          · cases takeUrl 0 (c :: more) with
            | mk text rest => cases text <;> rfl
      · rfl
    · rw [takeNamed_of_ne h hbracket]
      rfl

theorem isOther_takeString (quote : Char) (cs : List Char) :
    (takeString quote cs).1.isOther = true := by
  rw [takeString_eq]
  cases takeQuoted quote 0 cs with
  | mk text rest => cases text <;> rfl

theorem isOther_takeMatcher (c : Char) (cs : List Char) : (takeMatcher c cs).1.isOther = true := by
  unfold takeMatcher
  split <;> rfl

theorem isOther_takeOther (c : Char) (cs : List Char) : (takeOther c cs).1.isOther = true := by
  unfold takeOther
  split
  · rfl
  · split
    · exact isOther_takeNamed _
    · rfl

/-- A mark that begins neither a comment nor is a semicolon begins another token. -/
theorem isOther_takeMark {c : Char} {cs : List Char} (hsemicolon : c ≠ ';')
    (hcomment : ¬(c = '/' ∧ cs.head? = some '*')) : (takeMark c cs).1.isOther = true := by
  unfold takeMark
  split
  case h_1 | h_2 => exact isOther_takeString _ cs
  case h_12 => exact absurd rfl hsemicolon
  case h_13 | h_14 | h_15 | h_16 | h_17 => exact isOther_takeMatcher _ cs
  case h_18 =>
    unfold takeSlash
    split
    · exact absurd ⟨rfl, rfl⟩ hcomment
    · rfl
  case h_3 | h_19 | h_20 =>
    first | unfold takeHash | unfold takeLess | unfold takeAt
    split <;> rfl
  case h_21 => exact isOther_takeOther _ cs
  all_goals rfl

end ThemeOptions.Css
