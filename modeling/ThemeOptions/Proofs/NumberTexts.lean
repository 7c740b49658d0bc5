import ThemeOptions.Proofs.Numerals
import ThemeOptions.Proofs.SelectorEnds
import ThemeOptions.Value

/-!
# Texts that are numbers

A text is written with a unit if it is a number and nothing else among the tokens of a style sheet,
and it is a number for a transform if in addition it reads as a float.  The two differ.  Comments
are no tokens that count, so a numeral with comments around it is a number to the first, but no
float reads with a comment.  Without comments both accept the numerals (`numberTexts_described`).
-/

open scoped List

namespace ThemeOptions

namespace Css

/-! ### Comments -/

/-- The end of a comment. -/
def commentEnd : List Char := ['*', '/']

theorem dropComment_append_commentEnd {body : List Char} (h : ¬commentEnd <:+: body ++ ['*'])
    (cs : List Char) : dropComment (body ++ (commentEnd ++ cs)) = cs := by
  induction body with
  | nil => rfl
  | cons c body ih =>
    rw [List.cons_append, List.infix_cons_iff, not_or] at h
    rw [List.cons_append, dropComment_cons, ih h.2]
    rintro ⟨rfl, hhead⟩
    cases body with
    | nil => exact absurd hhead (by simp [commentEnd])
    | cons d body =>
      obtain rfl : d = '/' := Option.some.inj hhead
      exact h.1 ⟨body ++ ['*'], rfl⟩

/-- A comment goes on up to the first end, or to the end of the text. -/
theorem dropComment_cases (cs : List Char) :
    (∃ body, ¬commentEnd <:+: body ++ ['*'] ∧ cs = body ++ (commentEnd ++ dropComment cs)) ∨
      ¬commentEnd <:+: cs ∧ dropComment cs = [] := by
  induction cs with
  | nil => exact Or.inr ⟨by decide, rfl⟩
  | cons c cs ih =>
    by_cases hclose : c = '*' ∧ cs.head? = some '/'
    · obtain ⟨rfl, hhead⟩ := hclose
      obtain ⟨rest, rfl⟩ := List.head?_eq_some_iff.mp hhead
      exact Or.inl ⟨[], by decide, rfl⟩
    rw [dropComment_cons hclose]
    rcases ih with ⟨body, hbody, hcs⟩ | ⟨hopen, hdrop⟩
    · refine Or.inl ⟨c :: body, ?_, congrArg (c :: ·) hcs⟩
      rw [List.cons_append, List.infix_cons_iff, not_or]
      refine ⟨?_, hbody⟩
      rintro ⟨rest, hrest⟩
      obtain ⟨rfl, htail⟩ := List.cons.inj hrest
      cases body with
      | nil => exact absurd (List.cons.inj htail).1 (by decide)
      | cons d body =>
        obtain rfl : '/' = d := (List.cons.inj htail).1
        exact hclose ⟨rfl, by rw [hcs]; rfl⟩
    · refine Or.inr ⟨?_, hdrop⟩
      rw [List.infix_cons_iff, not_or]
      refine ⟨?_, hopen⟩
      rintro ⟨rest, hrest⟩
      obtain ⟨rfl, rfl⟩ := List.cons.inj hrest
      exact hclose ⟨rfl, rfl⟩

theorem tokensFrom_comment (cs : List Char) :
    tokensFrom 0 ('/' :: '*' :: cs) = .comment :: tokensFrom 0 (dropComment cs) := by
  refine tokensFrom_of_suffix rfl (List.IsSuffix.trans ?_ (List.suffix_cons '*' cs))
  rcases dropComment_cases cs with ⟨body, -, hcs⟩ | ⟨-, hdrop⟩
  · exact ⟨body ++ commentEnd, by rw [List.append_assoc, ← hcs]⟩
  · rw [hdrop]
    exact List.nil_suffix

/-! ### Gaps -/

/-- Spaces and comments. -/
inductive IsGap : List Char → Prop
  | nil : IsGap []
  | space {c : Char} {cs : List Char} (hc : isSpace c = true) (gap : IsGap cs) : IsGap (c :: cs)
  | comment {body cs : List Char} (hbody : ¬commentEnd <:+: body ++ ['*']) (gap : IsGap cs) :
      IsGap ('/' :: '*' :: (body ++ (commentEnd ++ cs)))

/-- Spaces and comments, the last of which the end of the text may cut off. -/
inductive IsLastGap : List Char → Prop
  | closed {cs : List Char} (gap : IsGap cs) : IsLastGap cs
  | cut {cs body : List Char} (gap : IsGap cs) (hbody : ¬commentEnd <:+: body) :
      IsLastGap (cs ++ '/' :: '*' :: body)

namespace IsLastGap

theorem space {c : Char} {cs : List Char} (hc : isSpace c = true) (h : IsLastGap cs) :
    IsLastGap (c :: cs) := by
  cases h with
  | closed h => exact .closed (.space hc h)
  | cut h hbody => exact IsLastGap.cut (.space hc h) hbody

theorem comment {body cs : List Char} (hbody : ¬commentEnd <:+: body ++ ['*'])
    (h : IsLastGap cs) : IsLastGap ('/' :: '*' :: (body ++ (commentEnd ++ cs))) := by
  cases h with
  | closed h => exact .closed (.comment hbody h)
  | cut h hlast =>
    have hcut := IsLastGap.cut (.comment hbody h) hlast
    simpa using hcut

end IsLastGap

theorem outside_of_isGap {gap : List Char} (h : IsGap gap) (stack : List Bracket)
    (cs : List Char) :
    outside stack (tokensFrom 0 (gap ++ cs)) = outside stack (tokensFrom 0 cs) := by
  induction h with
  | nil => rfl
  | @space c gap hc _ ih =>
    rw [List.cons_append, outside_of_leaves (leaves_cons hc _), ih]
  | comment hbody _ ih =>
    rw [List.cons_append, List.cons_append, tokensFrom_comment, outside_of_isFiller rfl,
      List.append_assoc, List.append_assoc, dropComment_append_commentEnd hbody, ih]

theorem outside_of_isLastGap {gap : List Char} (h : IsLastGap gap) (stack : List Bracket) :
    outside stack (tokensFrom 0 gap) = [] := by
  cases h with
  | closed h =>
    rw [← List.append_nil gap, outside_of_isGap h]
    exact outside_nil stack
  | @cut _ body h hbody =>
    rw [outside_of_isGap h, tokensFrom_comment, outside_of_isFiller rfl]
    rcases dropComment_cases body with ⟨closed, -, hcs⟩ | ⟨-, hdrop⟩
    · exact absurd ⟨closed, dropComment body, by rw [List.append_assoc, ← hcs]⟩ hbody
    · rw [hdrop]
      exact outside_nil stack

/-- Every text is a gap up to its end, or up to something that counts. -/
theorem isLastGap_or (cs : List Char) :
    IsLastGap cs ∨ ∃ gap c rest, IsGap gap ∧ cs = gap ++ c :: rest ∧ isSpace c = false ∧
      ¬(c = '/' ∧ rest.head? = some '*') := by
  induction hlength : cs.length using Nat.strong_induction_on generalizing cs with
  | _ n ih =>
    cases cs with
    | nil => exact Or.inl (.closed .nil)
    | cons c cs =>
      by_cases hc : isSpace c = true
      · rcases ih _ (by rw [← hlength]; exact Nat.lt_succ_self _) cs rfl with
          h | ⟨gap, d, rest, hgap, rfl, hd⟩
        · exact Or.inl (h.space hc)
        · exact Or.inr ⟨c :: gap, d, rest, .space hc hgap, rfl, hd⟩
      by_cases hcomment : c = '/' ∧ cs.head? = some '*'
      · obtain ⟨rfl, hhead⟩ := hcomment
        obtain ⟨cs, rfl⟩ := List.head?_eq_some_iff.mp hhead
        rcases dropComment_cases cs with ⟨body, hbody, hcs⟩ | ⟨hopen, -⟩
        · have hshorter : (dropComment cs).length < n := by
            have := congrArg List.length hcs
            rw [List.length_append, List.length_append] at this
            rw [← hlength, List.length_cons, List.length_cons]
            omega
          rw [hcs]
          rcases ih _ hshorter (dropComment cs) rfl with h | ⟨gap, d, rest, hgap, hdrop, hd⟩
          · exact Or.inl (h.comment hbody)
          · refine Or.inr ⟨_, d, rest, .comment hbody hgap, ?_, hd⟩
            rw [hdrop]
            simp
        · exact Or.inl (.cut .nil hopen)
      · exact Or.inr ⟨[], c, cs, .nil, rfl, by simpa using hc, hcomment⟩

/-! ### Numbers between gaps -/

/-- A token that counts begins where no gap goes on. -/
theorem isFiller_takeToken {c : Char} {cs : List Char} (hc : isSpace c = false)
    (hcomment : ¬(c = '/' ∧ cs.head? = some '*')) : (takeToken c cs).1.isFiller = false := by
  rw [takeToken_eq, if_neg (by simp [hc])]
  split
  · rw [takeNumeric_eq]
    unfold takeUnit
    split
    · rfl
    · split <;> rfl
  · by_cases hsemicolon : c = ';'
    · subst hsemicolon
      rfl
    · have hother := isOther_takeMark hsemicolon hcomment
      cases htoken : (takeMark c cs).1 <;> first | rfl | simp [htoken, Token.isOther] at hother

theorem outside_eq_nil_iff {cs : List Char} :
    outside [] (tokensFrom 0 cs) = [] ↔ IsLastGap cs := by
  refine ⟨fun h => ?_, fun h => outside_of_isLastGap h []⟩
  rcases isLastGap_or cs with hgap | ⟨gap, c, rest, hgap, rfl, hc, hcomment⟩
  · exact hgap
  · rw [outside_of_isGap hgap, tokensFrom_cons, outside, if_neg] at h
    · contradiction
    · simp [isFiller_takeToken hc hcomment]

/-- A number is a numeral and nothing more. -/
theorem exists_numeral_of_takeToken {c : Char} {cs : List Char} {text : String}
    (hc : isSpace c = false) (hcomment : ¬(c = '/' ∧ cs.head? = some '*'))
    (h : (takeToken c cs).1 = .number text) :
    ∃ numeral, IsNumeral (c :: numeral) ∧ cs = numeral ++ (takeToken c cs).2 := by
  rw [takeToken_eq, if_neg (by simp [hc])] at h ⊢
  by_cases hnumber : startsNumber (c :: cs) = true
  · rw [if_pos hnumber] at h ⊢
    obtain ⟨numeral, hnumeral, hcs⟩ := exists_isNumeral hnumber
    have hrest : (takeNumeric (c :: cs)).2 = dropNumber (c :: cs) := by
      rw [takeNumeric_eq] at h ⊢
      unfold takeUnit at h ⊢
      split at h
      · contradiction
      · split at h
        · contradiction
        · rename_i hname
          rw [if_neg hname]
    rw [hrest]
    cases numeral with
    | nil => exact absurd hnumeral (by decide)
    | cons d numeral =>
      obtain ⟨rfl, htail⟩ := List.cons.inj hcs
      exact ⟨numeral, hnumeral, htail⟩
  · rw [if_neg hnumber] at h
    by_cases hsemicolon : c = ';'
    · subst hsemicolon
      contradiction
    · have hother := isOther_takeMark hsemicolon hcomment
      rw [h] at hother
      contradiction

theorem IsLastGap.isStop_head? {gap : List Char} (h : IsLastGap gap) :
    ∀ c ∈ gap.head?, isStop c = true := by
  have hclosed {gap : List Char} (h : IsGap gap) : ∀ c ∈ gap.head?, isStop c = true := by
    cases h with
    | nil => simp
    | space hc => rintro c ⟨⟩; exact isStop_of_isSpace hc
    | comment => rintro c ⟨⟩; decide
  cases h with
  | closed h => exact hclosed h
  | @cut cs body h =>
    cases cs with
    | nil => rintro c ⟨⟩; decide
    | cons d cs => exact fun c hc => hclosed h c hc

/-- A numeral before a gap is one number. -/
theorem takeToken_of_isNumeral {c : Char} {numeral gap : List Char} (h : IsNumeral (c :: numeral))
    (hgap : ∀ c ∈ gap.head?, isStop c = true) :
    takeToken c (numeral ++ gap) = (.number (String.ofList (c :: numeral)), gap) := by
  obtain ⟨hnumber, hdrop⟩ := isNumeral_iff.mp h
  have hspaced : startsNumber (c :: numeral ++ gap) = true := by
    rw [startsNumber_append hgap, hnumber]
  have hspace : ¬isSpace c = true := fun hc =>
    absurd ((isStop_of_isSpace hc).symm.trans (h.not_isStop c (by simp))) (by decide)
  have hpercent : gap.head? ≠ some '%' := fun e => ne_of_isStop (hgap _ e) (by decide) rfl
  have hname : startsName ([] ++ gap) = startsName [] := startsName_append hgap (by decide)
  rw [takeToken_eq, if_neg hspace, ← List.cons_append, if_pos hspaced, takeNumeric_eq,
    dropNumber_append hgap, hdrop, List.nil_append, takeUnit_of_ne hpercent,
    if_neg (by rw [← List.nil_append gap, hname]; decide), List.length_append, Nat.add_sub_cancel,
    List.take_left]

/-- The one token of a text is a number just when the text is a numeral between gaps. -/
theorem outside_eq_number_iff {cs : List Char} :
    (∃ text, outside [] (tokensFrom 0 cs) = [.number text]) ↔
      ∃ before numeral after, cs = before ++ (numeral ++ after) ∧ IsGap before ∧
        IsNumeral numeral ∧ IsLastGap after := by
  constructor
  · rintro ⟨text, h⟩
    rcases isLastGap_or cs with hgap | ⟨before, c, rest, hbefore, rfl, hc, hcomment⟩
    · rw [outside_of_isLastGap hgap] at h
      contradiction
    rw [outside_of_isGap hbefore, tokensFrom_cons, outside,
      if_neg (by simp [isFiller_takeToken hc hcomment])] at h
    obtain ⟨htoken, hrest⟩ := List.cons.inj h
    obtain ⟨numeral, hnumeral, hcs⟩ := exists_numeral_of_takeToken hc hcomment htoken
    rw [htoken] at hrest
    generalize (takeToken c rest).2 = after at hcs hrest
    subst hcs
    rw [List.length_append, Nat.add_sub_cancel, List.drop_left] at hrest
    exact ⟨before, c :: numeral, after, rfl, hbefore, hnumeral, outside_eq_nil_iff.mp hrest⟩
  · rintro ⟨before, numeral, after, rfl, hbefore, hnumeral, hafter⟩
    cases numeral with
    | nil => exact absurd hnumeral (by decide)
    | cons c numeral =>
      refine ⟨String.ofList (c :: numeral), ?_⟩
      rw [outside_of_isGap hbefore, List.cons_append, tokensFrom_of_suffix
        (takeToken_of_isNumeral hnumeral hafter.isStop_head?) (List.suffix_append numeral after)]
      show .number _ :: outside [] (tokensFrom 0 after) = _
      rw [outside_of_isLastGap hafter]

theorem isNumber_iff (s : String) :
    isNumber s = true ↔
      ∃ text, outside [] (tokensFrom 0 (Text.trim s).toList) = [.number text] := by
  unfold isNumber topLevel tokens
  constructor
  · intro h
    split at h
    · rename_i text htext
      exact ⟨text, htext⟩
    · contradiction
  · rintro ⟨text, h⟩
    rw [h]

theorem isNumber_trim (s : String) : isNumber (Text.trim s) = isNumber s := by
  unfold isNumber
  rw [Text.trim_trim]

/-! ### Numerals among the numbers -/

/-- Without comments a gap is spaces. -/
theorem IsGap.isSpace_of_mem {gap : List Char} (h : IsGap gap) (hcomment : ¬['/', '*'] <:+: gap) :
    ∀ c ∈ gap, isSpace c = true := by
  induction h with
  | nil => simp
  | space hc _ ih =>
    rw [List.infix_cons_iff, not_or] at hcomment
    rintro c (_ | ⟨_, h⟩)
    · exact hc
    · exact ih hcomment.2 c h
  | comment => exact absurd ⟨[], _, rfl⟩ hcomment

theorem IsLastGap.isSpace_of_mem {gap : List Char} (h : IsLastGap gap)
    (hcomment : ¬['/', '*'] <:+: gap) : ∀ c ∈ gap, isSpace c = true := by
  cases h with
  | closed h => exact h.isSpace_of_mem hcomment
  | cut => exact absurd ⟨_, _, by rw [List.append_assoc]; rfl⟩ hcomment

end Css

namespace Text

theorem dropWhile_trimChars (cs : List Char) :
    (trimChars cs).dropWhile isBlank = trimChars cs := by
  cases hblank : cs.all isBlank with
  | true =>
    rw [(trimChars_eq_nil_iff cs).mpr hblank]
    rfl
  | false =>
    obtain ⟨c, rest, h, hc⟩ := exists_trimChars hblank
    rw [h, List.dropWhile_cons_of_neg (by simp [hc])]

/-- No blank stands at an end of a trimmed text. -/
theorem eq_nil_of_trim {s : String} {before middle after : List Char}
    (h : (trim s).toList = before ++ (middle ++ after))
    (hbefore : ∀ c ∈ before, isBlank c = true) (hafter : ∀ c ∈ after, isBlank c = true) :
    before = [] ∧ after = [] := by
  rw [trim, String.toList_ofList] at h
  have hfront := dropWhile_trimChars s.toList
  have hback : (trimChars s.toList).rdropWhile isBlank = trimChars s.toList := by
    rw [trimChars_eq, List.rdropWhile_idempotent]
  rw [h] at hfront hback
  constructor
  · cases before with
    | nil => rfl
    | cons c before =>
      have hlength := congrArg List.length hfront
      rw [List.cons_append, List.dropWhile_cons_of_pos (hbefore c (by simp)),
        List.length_cons] at hlength
      have := (List.dropWhile_suffix isBlank (l := before ++ (middle ++ after))).length_le
      omega
  · rcases List.eq_nil_or_concat after with rfl | ⟨after, c, rfl⟩
    · rfl
    · have hlength := congrArg List.length hback
      rw [List.concat_eq_append, ← List.append_assoc, ← List.append_assoc,
        List.rdropWhile_concat_pos _ _ _ (hafter c (by simp)), List.length_append,
        List.length_singleton] at hlength
      have := (List.rdropWhile_prefix isBlank (l := before ++ middle ++ after)).length_le
      omega

end Text

namespace Css

/-- A numeral is a number without a comment. -/
theorem isNumeral_trim_iff (t : String) :
    IsNumeral (Text.trim t).toList ↔
      isNumber t = true ∧ ¬['/', '*'] <:+: (Text.trim t).toList := by
  rw [isNumber_iff, outside_eq_number_iff]
  constructor
  · intro h
    refine ⟨⟨[], _, [], by simp, .nil, h, .closed .nil⟩, fun hcomment => ?_⟩
    have hslash : '/' ∈ (Text.trim t).toList := hcomment.subset (by simp)
    exact absurd (h.not_isStop _ hslash) (by decide)
  · rintro ⟨⟨before, numeral, after, hsplit, hbefore, hnumeral, hafter⟩, hcomment⟩
    rw [hsplit] at hcomment
    have hfront := hbefore.isSpace_of_mem fun h => hcomment
      (h.trans (List.prefix_append ..).isInfix)
    have hback := hafter.isSpace_of_mem fun h => hcomment
      (h.trans ((List.suffix_append ..).trans (List.suffix_append ..)).isInfix)
    obtain ⟨rfl, rfl⟩ := Text.eq_nil_of_trim hsplit
      (fun c hc => isBlank_of_isSpace (hfront c hc)) (fun c hc => isBlank_of_isSpace (hback c hc))
    rwa [hsplit, List.nil_append, List.append_nil]

/-- A numeral is a number that reads as a float. -/
theorem isNumeral_trim_iff_isSome (t : String) :
    IsNumeral (Text.trim t).toList ↔
      isNumber t = true ∧ (Decimal.read? (Text.trim t)).isSome = true := by
  rw [isNumeral_trim_iff]
  constructor
  · intro h
    exact ⟨h.1, ((isNumeral_trim_iff t).mpr h).isSome_readChars⟩
  · rintro ⟨hnumber, hread⟩
    refine ⟨hnumber, fun hcomment => ?_⟩
    have hslash : '/' ∈ (Text.trim t).toList := hcomment.subset (by simp)
    exact absurd (not_isStop_of_readChars hread _ hslash) (by decide)

end Css

/-- **Which texts are numbers**, to the unit and to a transform. -/
theorem numberTexts_described (t : String) :
    (Css.isNumber t = true ↔ ∃ before numeral after,
      (Text.trim t).toList = before ++ (numeral ++ after) ∧ Css.IsGap before ∧
        Css.IsNumeral numeral ∧ Css.IsLastGap after) ∧
    (Css.IsNumeral (Text.trim t).toList ↔
      Css.isNumber t = true ∧ ¬['/', '*'] <:+: (Text.trim t).toList) ∧
    ((Value.text t).number?.isSome = true ↔ Css.IsNumeral (Text.trim t).toList) ∧
    ∀ unit, (Value.text t).render unit = Text.trim t ++ if Css.isNumber t then unit else "" := by
  refine ⟨(Css.isNumber_iff t).trans Css.outside_eq_number_iff, Css.isNumeral_trim_iff t, ?_,
    fun unit => ?_⟩
  · rw [Css.isNumeral_trim_iff_isSome, Value.number?]
    split
    · rename_i hnumber
      simp [hnumber]
    · rename_i hnumber
      simp [hnumber]
  · rw [Value.render, Css.isNumber_trim]
    split
    · rfl
    · exact String.append_empty.symm

/-- A comment behind a numeral: the text gets a unit, but it is no numeral and reads as no float. -/
theorem numberTexts_comment :
    Css.isNumber "1/**/" = true ∧ ¬Css.IsNumeral (Text.trim "1/**/").toList ∧
      (Value.text "1/**/").number?.isSome = false ∧
      (Value.text "1/**/").render "px" = "1/**/px" := by
  decide +kernel

end ThemeOptions
