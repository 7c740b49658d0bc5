import ThemeOptions.Decimal.Reader
import ThemeOptions.Proofs.TokenReaders

/-!
# Numerals

The numerals of CSS as a grammar: an optional sign, digits with an optional point before the last of
them, and an optional exponent.  The tokens of a style sheet and the floats are read by two readers
that know nothing of each other.  The first reads the longest numeral that a text begins with
(`exists_isNumeral`) and takes no text as a whole but numerals (`isNumeral_iff`).  The second reads
every numeral (`IsNumeral.isSome_readChars`); of the other texts that it reads none holds a stop
(`not_isStop_of_readChars`).
-/

namespace ThemeOptions.Css

/-! ### The grammar -/

/-- An optional sign. -/
inductive IsSign : List Char → Prop
  | none : IsSign []
  | plus : IsSign ['+']
  | minus : IsSign ['-']

/-- One digit or more. -/
def IsDigits (ds : List Char) : Prop := ds ≠ [] ∧ ∀ d ∈ ds, d.isDigit = true

/-- Digits, or a point with digits behind it and maybe before it. -/
inductive IsMantissa : List Char → Prop
  | whole {ds : List Char} (digits : IsDigits ds) : IsMantissa ds
  | point {ds fs : List Char} (whole : ∀ d ∈ ds, d.isDigit = true) (fraction : IsDigits fs) :
      IsMantissa (ds ++ '.' :: fs)

/-- An optional exponent. -/
inductive IsExponent : List Char → Prop
  | none : IsExponent []
  | some {e : Char} {sign ds : List Char} (mark : e = 'e' ∨ e = 'E') (signed : IsSign sign)
      (digits : IsDigits ds) : IsExponent (e :: (sign ++ ds))

/-- A numeral of CSS. -/
inductive IsNumeral : List Char → Prop
  | mk {sign mantissa exponent : List Char} (signed : IsSign sign)
      (hasMantissa : IsMantissa mantissa) (hasExponent : IsExponent exponent) :
      IsNumeral (sign ++ (mantissa ++ exponent))

/-! ### Signs and digits -/

theorem exists_isSign (cs : List Char) : ∃ sign, IsSign sign ∧ cs = sign ++ dropSign cs := by
  unfold dropSign
  split
  · exact ⟨_, .plus, rfl⟩
  · exact ⟨_, .minus, rfl⟩
  · exact ⟨_, .none, rfl⟩

theorem IsSign.dropSign_append {sign cs : List Char} (h : IsSign sign)
    (hcs : ∀ c ∈ cs.head?, c.isDigit = true ∨ c = '.') : dropSign (sign ++ cs) = cs := by
  cases h with
  | plus => rfl
  | minus => rfl
  | none =>
    cases cs with
    | nil => rfl
    | cons c cs =>
      rw [List.nil_append, dropSign_cons, if_neg]
      rintro (rfl | rfl) <;> exact absurd (hcs _ rfl) (by decide)

theorem dropWhile_of_head {p : Char → Bool} {cs : List Char} (h : ∀ c ∈ cs.head?, p c = false) :
    cs.dropWhile p = cs := by
  cases cs with
  | nil => rfl
  | cons c cs => exact List.dropWhile_cons_of_neg (by simp [h c rfl])

theorem dropWhile_isDigit_append {ds cs : List Char} (hds : ∀ d ∈ ds, d.isDigit = true)
    (hcs : ∀ c ∈ cs.head?, c.isDigit = false) : (ds ++ cs).dropWhile Char.isDigit = cs := by
  rw [List.dropWhile_append_of_pos hds, dropWhile_of_head hcs]

theorem takeWhile_isDigit_append {ds cs : List Char} (hds : ∀ d ∈ ds, d.isDigit = true)
    (hcs : ∀ c ∈ cs.head?, c.isDigit = false) : (ds ++ cs).takeWhile Char.isDigit = ds := by
  have hsplit := (ds ++ cs).takeWhile_append_dropWhile (p := Char.isDigit)
  rw [dropWhile_isDigit_append hds hcs] at hsplit
  exact List.append_cancel_right hsplit

/-- The digits at the start of a text. -/
theorem exists_digits (cs : List Char) :
    ∃ ds, (∀ d ∈ ds, d.isDigit = true) ∧ cs = ds ++ cs.dropWhile Char.isDigit :=
  ⟨cs.takeWhile Char.isDigit, fun _ => List.mem_takeWhile_imp,
    List.takeWhile_append_dropWhile.symm⟩

theorem exists_isDigits {cs : List Char} (h : startsWithDigit cs = true) :
    ∃ ds, IsDigits ds ∧ cs = ds ++ cs.dropWhile Char.isDigit := by
  obtain ⟨ds, hds, hcs⟩ := exists_digits cs
  refine ⟨ds, ⟨?_, hds⟩, hcs⟩
  rintro rfl
  cases cs with
  | nil => exact absurd h (by decide)
  | cons c cs =>
    have hc : c.isDigit = true := h
    have hlength := congrArg List.length hcs
    rw [List.nil_append, List.dropWhile_cons_of_pos hc, List.length_cons] at hlength
    have := (List.dropWhile_suffix Char.isDigit (l := cs)).length_le
    omega

namespace IsDigits

variable {ds : List Char} (h : IsDigits ds)
include h

theorem startsWithDigit_append (cs : List Char) : startsWithDigit (ds ++ cs) = true := by
  obtain ⟨hne, hds⟩ := h
  cases ds with
  | nil => exact absurd rfl hne
  | cons d ds => exact hds d (by simp)

theorem head?_append (cs : List Char) : ∀ c ∈ (ds ++ cs).head?, c.isDigit = true := by
  obtain ⟨hne, hds⟩ := h
  cases ds with
  | nil => exact absurd rfl hne
  | cons d ds =>
    rintro c ⟨⟩
    exact hds d (by simp)

end IsDigits

theorem IsSign.dropSign_digits {sign ds : List Char} (h : IsSign sign) (hds : IsDigits ds) :
    dropSign (sign ++ ds) = ds := by
  refine h.dropSign_append fun c hc => Or.inl (hds.head?_append [] c ?_)
  rwa [List.append_nil]

theorem IsExponent.head? {exponent : List Char} (h : IsExponent exponent) :
    ∀ c ∈ exponent.head?, c = 'e' ∨ c = 'E' := by
  cases h with
  | none => simp
  | some mark =>
    rintro c ⟨⟩
    exact mark

theorem IsExponent.isDigit_head? {exponent : List Char} (h : IsExponent exponent) :
    ∀ c ∈ exponent.head?, c.isDigit = false := by
  intro c hc
  rcases h.head? c hc with rfl | rfl <;> decide

theorem IsMantissa.head?_append {mantissa : List Char} (h : IsMantissa mantissa) (cs : List Char) :
    ∀ c ∈ (mantissa ++ cs).head?, c.isDigit = true ∨ c = '.' := by
  cases h with
  | whole digits => exact fun c hc => Or.inl (digits.head?_append cs c hc)
  | @point ds fs whole fraction =>
    cases ds with
    | nil =>
      rintro c ⟨⟩
      exact Or.inr rfl
    | cons d ds =>
      rintro c ⟨⟩
      exact Or.inl (whole d (by simp))

/-! ### The numbers among the tokens -/

theorem IsExponent.dropExponent_eq_nil {exponent : List Char} (h : IsExponent exponent) :
    dropExponent exponent = [] := by
  cases h with
  | none => rfl
  | @some e sign ds mark hsign digits =>
    have hstarts := digits.startsWithDigit_append []
    rw [List.append_nil] at hstarts
    have hmark : (e == 'e' || e == 'E') = true := by simpa using mark
    rw [dropExponent, hsign.dropSign_digits digits, hmark, hstarts]
    exact List.dropWhile_eq_nil_iff.mpr digits.2

theorem IsMantissa.dropFraction_append {mantissa exponent : List Char} (h : IsMantissa mantissa)
    (hexponent : IsExponent exponent) :
    dropFraction ((mantissa ++ exponent).dropWhile Char.isDigit) = exponent := by
  have hdigit := hexponent.isDigit_head?
  cases h with
  | whole digits =>
    rw [dropWhile_isDigit_append digits.2 hdigit]
    cases exponent with
    | nil => rfl
    | cons e cs =>
      have he := hexponent.head? e rfl
      rw [dropFraction_cons, if_neg]
      rintro ⟨rfl, -⟩
      exact absurd he (by decide)
  | @point ds fs whole fraction =>
    rw [List.append_assoc, List.cons_append, dropWhile_isDigit_append whole (by simp),
      dropFraction_cons, if_pos ⟨rfl, fraction.startsWithDigit_append exponent⟩,
      dropWhile_isDigit_append fraction.2 hdigit]

theorem IsMantissa.startsNumber {mantissa exponent : List Char} (h : IsMantissa mantissa) {cs}
    (hcs : dropSign cs = mantissa ++ exponent) : startsNumber cs = true := by
  unfold Css.startsNumber
  rw [hcs]
  cases h with
  | whole digits =>
    have hstarts := digits.startsWithDigit_append exponent
    split
    · rename_i rest heq
      have hpoint : ('.').isDigit = true := digits.head?_append exponent '.' (by rw [heq]; rfl)
      exact absurd hpoint (by decide)
    · exact hstarts
  | @point ds fs whole fraction =>
    rw [List.append_assoc, List.cons_append]
    cases ds with
    | nil => exact fraction.startsWithDigit_append exponent
    | cons d ds =>
      have hd : d.isDigit = true := whole d (by simp)
      rw [List.cons_append]
      split
      · rename_i rest heq
        obtain ⟨rfl, -⟩ := List.cons.inj heq
        exact absurd hd (by decide)
      · exact hd

/-- A numeral is one number and nothing else. -/
theorem IsNumeral.dropNumber_eq_nil {cs : List Char} (h : IsNumeral cs) :
    startsNumber cs = true ∧ dropNumber cs = [] := by
  obtain @⟨_, _, exponent, hsign, hmantissa, hexponent⟩ := h
  have hdrop := hsign.dropSign_append (hmantissa.head?_append exponent)
  refine ⟨hmantissa.startsNumber hdrop, ?_⟩
  rw [dropNumber, hdrop, hmantissa.dropFraction_append hexponent, hexponent.dropExponent_eq_nil]

theorem exists_isExponent (cs : List Char) :
    ∃ exponent, IsExponent exponent ∧ cs = exponent ++ dropExponent cs := by
  cases cs with
  | nil => exact ⟨[], .none, rfl⟩
  | cons e cs =>
    rw [dropExponent]
    split
    · rename_i h
      rw [Bool.and_eq_true, Bool.or_eq_true, beq_iff_eq, beq_iff_eq] at h
      obtain ⟨sign, hsign, hcs⟩ := exists_isSign cs
      obtain ⟨ds, hds, hdrop⟩ := exists_isDigits h.2
      refine ⟨e :: (sign ++ ds), .some h.1 hsign hds, ?_⟩
      rw [List.cons_append, List.append_assoc, ← hdrop, ← hcs]
    · exact ⟨[], .none, rfl⟩

/-- **A number reads a numeral** from the start of a text. -/
theorem exists_isNumeral {cs : List Char} (h : startsNumber cs = true) :
    ∃ numeral, IsNumeral numeral ∧ cs = numeral ++ dropNumber cs := by
  obtain ⟨sign, hsign, hcs⟩ := exists_isSign cs
  obtain ⟨ds, hds, hwhole⟩ := exists_digits (dropSign cs)
  obtain ⟨exponent, hexponent, hrest⟩ :=
    exists_isExponent (dropFraction ((dropSign cs).dropWhile Char.isDigit))
  suffices hmantissa : ∃ mantissa, IsMantissa mantissa ∧
      dropSign cs = mantissa ++ dropFraction ((dropSign cs).dropWhile Char.isDigit) by
    obtain ⟨mantissa, hmantissa, hsplit⟩ := hmantissa
    refine ⟨_, .mk hsign hmantissa hexponent, ?_⟩
    rw [List.append_assoc, List.append_assoc, dropNumber, ← hrest, ← hsplit, ← hcs]
  unfold startsNumber at h
  generalize dropSign cs = us at h hwhole
  by_cases hpoint : ∃ fs, us.dropWhile Char.isDigit = '.' :: fs ∧ startsWithDigit fs = true
  · obtain ⟨fs, hfs, hstarts⟩ := hpoint
    obtain ⟨fraction, hfraction, hdrop⟩ := exists_isDigits hstarts
    refine ⟨ds ++ '.' :: fraction, .point hds hfraction, ?_⟩
    rw [hfs, dropFraction_cons, if_pos ⟨rfl, hstarts⟩, List.append_assoc, List.cons_append,
      ← hdrop, ← hfs, ← hwhole]
  · have hfraction : dropFraction (us.dropWhile Char.isDigit) = us.dropWhile Char.isDigit := by
      cases hus : us.dropWhile Char.isDigit with
      | nil => rfl
      | cons c rest =>
        rw [dropFraction_cons, if_neg]
        rintro ⟨rfl, hstarts⟩
        exact hpoint ⟨rest, hus, hstarts⟩
    have hdigit : startsWithDigit us = true := by
      split at h
      · rename_i rest
        exact absurd ⟨rest, rfl, h⟩ hpoint
      · exact h
    obtain ⟨whole, hdigits, hsplit⟩ := exists_isDigits hdigit
    exact ⟨whole, .whole hdigits, by rw [hfraction, ← hsplit]⟩

/-- **Numerals are the texts that are one number.** -/
theorem isNumeral_iff {cs : List Char} :
    IsNumeral cs ↔ startsNumber cs = true ∧ dropNumber cs = [] := by
  refine ⟨IsNumeral.dropNumber_eq_nil, fun ⟨hstarts, hdrop⟩ => ?_⟩
  obtain ⟨numeral, hnumeral, hcs⟩ := exists_isNumeral hstarts
  rw [hdrop, List.append_nil] at hcs
  rwa [hcs]

instance (cs : List Char) : Decidable (IsNumeral cs) :=
  decidable_of_iff _ isNumeral_iff.symm

example : IsNumeral "-.5e+10".toList := by decide

/-! ### The floats -/

open Decimal (readChars readWord readUnsigned readExponent splitSign splitDigits splitFraction)

theorem splitSign_snd (cs : List Char) : (splitSign cs).2 = dropSign cs := by
  unfold splitSign
  split
  · rfl
  · rfl
  · unfold dropSign
    split <;> first | rfl | simp_all

theorem isSome_readChars (cs : List Char) :
    (readChars cs).isSome =
      ((readWord (dropSign cs)).isSome || (readUnsigned (dropSign cs)).isSome) := by
  rw [← splitSign_snd]
  unfold readChars
  cases splitSign cs with
  | mk negative us =>
    dsimp only
    cases readWord us <;> cases readUnsigned us <;> rfl

theorem isSome_readUnsigned (cs : List Char) :
    (readUnsigned cs).isSome =
      (!((splitFraction cs).1.isEmpty && (splitFraction cs).2.1.isEmpty) &&
        (readExponent (splitFraction cs).2.2).isSome) := by
  unfold readUnsigned
  dsimp only
  split
  · rename_i h
    rw [h]
    rfl
  · rename_i h
    rw [Bool.not_eq_true] at h
    rw [h, Option.isSome_map]
    rfl

theorem isSome_readExponent (e : Char) (cs : List Char) :
    (readExponent (e :: cs)).isSome =
      ((e == 'e' || e == 'E') && !((dropSign cs).isEmpty || !(dropSign cs).all Char.isDigit)) := by
  rw [← splitSign_snd]
  unfold readExponent
  dsimp only
  cases splitSign cs with
  | mk negative ds =>
    cases (e == 'e' || e == 'E') with
    | false => rfl
    | true => cases (ds.isEmpty || !ds.all Char.isDigit) <;> rfl

theorem IsExponent.isSome_readExponent {exponent : List Char} (h : IsExponent exponent) :
    (readExponent exponent).isSome = true := by
  cases h with
  | none => rfl
  | @some e sign ds mark hsign digits =>
    have hmark : (e == 'e' || e == 'E') = true := by simpa using mark
    have hne : ds.isEmpty = false := by simpa using digits.1
    rw [Css.isSome_readExponent, hsign.dropSign_digits digits, hmark, hne,
      List.all_eq_true.mpr digits.2]
    rfl

theorem splitFraction_whole {ds cs : List Char} (hds : ∀ d ∈ ds, d.isDigit = true)
    (hcs : ∀ c ∈ cs.head?, c = 'e' ∨ c = 'E') : splitFraction (ds ++ cs) = (ds, [], cs) := by
  have hdigit : ∀ c ∈ cs.head?, c.isDigit = false := by
    intro c hc
    rcases hcs c hc with rfl | rfl <;> decide
  unfold splitFraction splitDigits
  rw [takeWhile_isDigit_append hds hdigit, dropWhile_isDigit_append hds hdigit]
  dsimp only
  split
  · exact absurd (hcs '.' rfl) (by decide)
  · rfl

theorem splitFraction_point {ds fs cs : List Char} (hds : ∀ d ∈ ds, d.isDigit = true)
    (hfs : ∀ d ∈ fs, d.isDigit = true) (hcs : ∀ c ∈ cs.head?, c.isDigit = false) :
    splitFraction (ds ++ '.' :: (fs ++ cs)) = (ds, fs, cs) := by
  unfold splitFraction splitDigits
  rw [takeWhile_isDigit_append hds (by simp), dropWhile_isDigit_append hds (by simp)]
  show (ds, (fs ++ cs).takeWhile Char.isDigit, (fs ++ cs).dropWhile Char.isDigit) = _
  rw [takeWhile_isDigit_append hfs hcs, dropWhile_isDigit_append hfs hcs]

/-- **Every numeral reads as a float.** -/
theorem IsNumeral.isSome_readChars {cs : List Char} (h : IsNumeral cs) :
    (readChars cs).isSome = true := by
  obtain ⟨hsign, hmantissa, hexponent⟩ := h
  rw [Css.isSome_readChars, hsign.dropSign_append (hmantissa.head?_append _), Bool.or_eq_true]
  right
  rw [isSome_readUnsigned]
  cases hmantissa with
  | whole digits =>
    rw [splitFraction_whole digits.2 hexponent.head?]
    simp [digits.1, hexponent.isSome_readExponent]
  | point whole fraction =>
    rw [List.append_assoc, List.cons_append,
      splitFraction_point whole fraction.2 hexponent.isDigit_head?]
    simp [fraction.1, hexponent.isSome_readExponent]

theorem not_isStop_of_isDigit {c : Char} (h : c.isDigit = true) : isStop c = false := by
  cases hstop : isStop c with
  | true => exact absurd (h.symm.trans (isDigit_of_isStop hstop)) (by decide)
  | false => rfl

theorem not_isStop_of_dropSign {cs : List Char} (h : ∀ c ∈ dropSign cs, isStop c = false) :
    ∀ c ∈ cs, isStop c = false := by
  obtain ⟨sign, hsign, hcs⟩ := exists_isSign cs
  intro c hc
  rw [hcs, List.mem_append] at hc
  rcases hc with hc | hc
  · cases hsign with
    | none => contradiction
    | plus =>
      obtain rfl := List.mem_singleton.mp hc
      decide
    | minus =>
      obtain rfl := List.mem_singleton.mp hc
      decide
  · exact h c hc

theorem not_isStop_of_dropWhile {cs : List Char}
    (h : ∀ c ∈ cs.dropWhile Char.isDigit, isStop c = false) : ∀ c ∈ cs, isStop c = false := by
  obtain ⟨ds, hds, hcs⟩ := exists_digits cs
  intro c hc
  rw [hcs, List.mem_append] at hc
  exact hc.elim (fun hc => not_isStop_of_isDigit (hds c hc)) (h c)

theorem not_isStop_of_readExponent {cs : List Char} (h : (readExponent cs).isSome = true) :
    ∀ c ∈ cs, isStop c = false := by
  cases cs with
  | nil => simp
  | cons e cs =>
    rw [isSome_readExponent, Bool.and_eq_true, Bool.not_eq_true', Bool.or_eq_false_iff,
      Bool.not_eq_false', List.all_eq_true] at h
    obtain ⟨hmark, -, hdigits⟩ := h
    rintro c (_ | ⟨_, hc⟩)
    · rw [Bool.or_eq_true, beq_iff_eq, beq_iff_eq] at hmark
      rcases hmark with rfl | rfl <;> decide
    · exact not_isStop_of_dropSign (fun d hd => not_isStop_of_isDigit (hdigits d hd)) c hc

theorem not_isStop_of_splitFraction {cs : List Char}
    (h : ∀ c ∈ (splitFraction cs).2.2, isStop c = false) : ∀ c ∈ cs, isStop c = false := by
  refine not_isStop_of_dropWhile ?_
  unfold splitFraction splitDigits at h
  dsimp only at h
  split at h
  · rename_i rest heq
    rw [heq]
    rintro c (_ | ⟨_, hc⟩)
    · decide
    · exact not_isStop_of_dropWhile h c hc
  · exact h

theorem not_isStop_of_all {cs : List Char} (h : cs.all (!isStop ·) = true) :
    ∀ c ∈ cs, isStop c = false := by
  simpa using h

theorem not_isStop_of_readWord {cs : List Char} (h : (readWord cs).isSome = true) :
    ∀ c ∈ cs, isStop c = false := by
  have hword : ∀ c ∈ cs.map Char.toLower, isStop c = false := by
    unfold readWord at h
    dsimp only at h
    split at h
    · rename_i heq
      rw [Bool.or_eq_true, beq_iff_eq, beq_iff_eq] at heq
      rcases heq with heq | heq <;> rw [heq] <;> exact not_isStop_of_all (by decide)
    · split at h
      · rename_i heq
        rw [beq_iff_eq] at heq
        rw [heq]
        exact not_isStop_of_all (by decide)
      · contradiction
  intro c hc
  cases hstop : isStop c with
  | false => rfl
  | true =>
    have hlower : c.toLower = c := forall_isStop (P := fun c => c.toLower = c) (by decide) hstop
    have := hword c.toLower (List.mem_map_of_mem hc)
    rwa [hlower, hstop] at this

/-- **No text that reads as a float holds a stop.** -/
theorem not_isStop_of_readChars {cs : List Char} (h : (readChars cs).isSome = true) :
    ∀ c ∈ cs, isStop c = false := by
  rw [isSome_readChars, Bool.or_eq_true] at h
  refine not_isStop_of_dropSign ?_
  rcases h with hword | hunsigned
  · exact not_isStop_of_readWord hword
  · rw [isSome_readUnsigned, Bool.and_eq_true] at hunsigned
    exact not_isStop_of_splitFraction (not_isStop_of_readExponent hunsigned.2)

theorem IsNumeral.not_isStop {cs : List Char} (h : IsNumeral cs) : ∀ c ∈ cs, isStop c = false :=
  not_isStop_of_readChars h.isSome_readChars

end ThemeOptions.Css
