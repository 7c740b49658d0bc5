import Mathlib.Data.List.DropRight
import ThemeOptions.Proofs.OutsideBrackets

/-!
# The ends of a selector

A selector is checked as it is written and emitted without the blanks at its ends.  The check speaks
of the spaces of CSS, trimming of the blanks of Unicode.  Where both ends hold spaces of CSS only,
what is emitted is accepted if the text is (`Css.selectorProblem?_trim`).

Spaces in front are one token that does not count.  For those behind, the tokens of both texts are
compared from the front, wherever the reading stands (`Css.AcceptedIf`).
-/

open scoped List

namespace ThemeOptions

/-! ### Trimming -/

namespace Text

theorem trimChars_eq (cs : List Char) :
    trimChars cs = (cs.dropWhile isBlank).rdropWhile isBlank := rfl

/-- A text that is not blank starts, once it is trimmed, with a character that is no blank. -/
theorem exists_trimChars {cs : List Char} (h : cs.all isBlank = false) :
    ∃ c rest, trimChars cs = c :: rest ∧ isBlank c = false := by
  have hdrop : cs.dropWhile isBlank ≠ [] := fun e => by
    rw [dropWhile_eq_nil_iff, h] at e
    exact absurd e (by simp)
  obtain ⟨c, rest, hcs⟩ := List.exists_cons_of_ne_nil hdrop
  have hc : isBlank c = false := by
    have hhead := List.head?_dropWhile_not isBlank cs
    rwa [hcs] at hhead
  rw [trimChars_eq, hcs]
  cases hmid : (c :: rest).rdropWhile isBlank with
  | nil =>
    have hblank := List.rdropWhile_eq_nil_iff.mp hmid c (by simp)
    rw [hc] at hblank
    exact absurd hblank (by simp)
  | cons d mid =>
    have hprefix := List.rdropWhile_prefix isBlank (l := c :: rest)
    rw [hmid, List.cons_prefix_cons] at hprefix
    exact ⟨d, mid, rfl, hprefix.1 ▸ hc⟩

/-- What trimming takes off at both ends. -/
theorem takeWhile_append_trimChars (cs : List Char) :
    cs.takeWhile isBlank ++ (trimChars cs ++ (cs.dropWhile isBlank).rtakeWhile isBlank) = cs := by
  rw [trimChars_eq, List.rdropWhile_append_rtakeWhile, List.takeWhile_append_dropWhile]

theorem mem_rtakeWhile_of_mem_dropWhile {cs : List Char} {c : Char}
    (h : c ∈ (cs.dropWhile isBlank).rtakeWhile isBlank) : c ∈ cs.rtakeWhile isBlank := by
  have hcs : cs.reverse = (cs.dropWhile isBlank).reverse ++ (cs.takeWhile isBlank).reverse := by
    rw [← List.reverse_append, List.takeWhile_append_dropWhile]
  unfold List.rtakeWhile at h ⊢
  rw [List.mem_reverse] at h ⊢
  rw [hcs, List.takeWhile_append]
  split
  · exact List.mem_append_left _ ((List.takeWhile_prefix isBlank).subset h)
  · exact h

theorem trimChars_trimChars (cs : List Char) : trimChars (trimChars cs) = trimChars cs := by
  cases hblank : cs.all isBlank with
  | true =>
    rw [(trimChars_eq_nil_iff cs).mpr hblank]
    rfl
  | false =>
    obtain ⟨c, rest, h, hc⟩ := exists_trimChars hblank
    rw [trimChars_eq (trimChars cs), h, List.dropWhile_cons_of_neg (by simp [hc]), ← h,
      trimChars_eq, List.rdropWhile_idempotent]

theorem trim_trim (s : String) : trim (trim s) = trim s := by
  unfold trim
  rw [String.toList_ofList, trimChars_trimChars]

theorem blank_trim (s : String) : blank (trim s) = blank s := by
  unfold blank trim
  rw [String.toList_ofList, Bool.eq_iff_iff, ← trimChars_eq_nil_iff, ← trimChars_eq_nil_iff,
    trimChars_trimChars]

/-- There is no blank between the digits and the small letters. -/
theorem isBlank_of_mem_range {c : Char} (h : 48 ≤ c.toNat ∧ c.toNat ≤ 122) : isBlank c = false := by
  unfold isBlank
  dsimp only
  simp only [Bool.or_eq_false_iff, Bool.and_eq_false_iff, decide_eq_false_iff_not,
    beq_eq_false_iff_ne]
  omega

/-- Blanks around a text without blanks are trimmed. -/
theorem trim_append {before s after : String} (hbefore : blank before = true)
    (hs : ∀ c ∈ s.toList, isBlank c = false) (hafter : blank after = true) :
    trim (before ++ s ++ after) = s := by
  have hfront : ∀ c ∈ before.toList, isBlank c = true := List.all_eq_true.mp hbefore
  have hback : ∀ c ∈ after.toList, isBlank c = true := List.all_eq_true.mp hafter
  rw [trim, trimChars_eq, String.toList_append, String.toList_append, List.append_assoc,
    List.dropWhile_append_of_pos hfront]
  cases hchars : s.toList with
  | nil =>
    rw [List.nil_append, (dropWhile_eq_nil_iff _ _).mpr hafter]
    exact (String.toList_eq_nil_iff.mp hchars).symm
  | cons c rest =>
    have hlast : ∀ d ∈ (c :: rest).reverse, isBlank d = false := fun d hd =>
      hs d (hchars ▸ List.mem_reverse.mp hd)
    rw [List.cons_append, List.dropWhile_cons_of_neg (by simp [hs c (by simp [hchars])]),
      ← List.cons_append, List.rdropWhile, List.reverse_append,
      List.dropWhile_append_of_pos fun d hd => hback d (List.mem_reverse.mp hd),
      List.dropWhile_eq_self_iff.mpr fun hlength => by
        rw [hlast _ (List.getElem_mem hlength)]
        exact Bool.false_ne_true,
      List.reverse_reverse, ← hchars, String.ofList_toList]

theorem trim_eq_self {s : String} (hs : ∀ c ∈ s.toList, isBlank c = false) : trim s = s := by
  have htrim : trim ("" ++ s ++ "") = s := trim_append rfl hs rfl
  rwa [String.empty_append, String.append_empty] at htrim

end Text

namespace Css

/-- Whether the blanks at both ends of a text are spaces of CSS. -/
def plainEnds (s : String) : Bool :=
  (s.toList.takeWhile Text.isBlank).all isSpace && (s.toList.rtakeWhile Text.isBlank).all isSpace

/-! ### Tokens of a text with spaces at its ends -/

/-- Wherever the second tokens are accepted as the rest of a selector list, so are the first.
Inside brackets the item has started, with the bracket if with nothing else. -/
def AcceptedIf (ts ts' : List Token) : Prop :=
  ∀ started stack, stack = [] ∨ started = true →
    scanSelector started (outside stack ts') = none →
      scanSelector started (outside stack ts) = none

namespace AcceptedIf

theorem refl (ts : List Token) : AcceptedIf ts ts := fun _ _ _ h => h

theorem cons {ts ts' : List Token} (h : AcceptedIf ts ts') (t : Token) :
    AcceptedIf (t :: ts) (t :: ts') := by
  intro started stack hstack haccepted
  cases stack with
  | nil =>
    by_cases hfiller : t.isFiller = true
    · rw [outside, if_pos hfiller] at haccepted ⊢
      exact h started [] hstack haccepted
    rw [outside, if_neg hfiller] at haccepted ⊢
    by_cases hcomma : t = .comma
    · subst hcomma
      rw [scanSelector, if_pos rfl] at haccepted ⊢
      cases started with
      | true => exact h false [] (Or.inl rfl) haccepted
      | false => exact absurd haccepted (by simp)
    · rw [scanSelector, if_neg hcomma] at haccepted ⊢
      cases hbreaks : t.breaks? with
      | some problem => exact absurd haccepted (by simp [hbreaks])
      | none =>
        simp only [hbreaks] at haccepted ⊢
        exact h true _ (Or.inr rfl) haccepted
  | cons b stack =>
    have hstarted : started = true := hstack.resolve_left (by simp)
    rw [outside] at haccepted ⊢
    cases hopens : t.opens? with
    | some b' =>
      simp only [hopens] at haccepted ⊢
      exact h started _ (Or.inr hstarted) haccepted
    | none =>
      simp only [hopens] at haccepted ⊢
      exact h started _ (Or.inr hstarted) haccepted

/-- A plain token is accepted wherever it comes last. -/
theorem of_isPlain {t : Token} (ht : t.isPlain = true) (ts : List Token) : AcceptedIf [t] ts := by
  unfold Token.isPlain at ht
  rw [Bool.and_eq_true, Bool.and_eq_true, Bool.not_eq_true', bne_iff_ne,
    Option.isNone_iff_eq_none] at ht
  obtain ⟨⟨hfiller, hcomma⟩, hbreaks⟩ := ht
  intro started stack hstack _
  cases stack with
  | nil =>
    rw [outside, if_neg (by simp [hfiller]), outside, scanSelector, if_neg hcomma, hbreaks]
    rfl
  | cons b stack =>
    have hstarted : started = true := hstack.resolve_left (by simp)
    rw [outside, hstarted]
    split <;> rw [outside] <;> rfl

end AcceptedIf

section

variable {ws : List Char} (hws : ∀ c ∈ ws, isSpace c = true)
include hws

theorem acceptedIf_spaces : AcceptedIf [] (tokensFrom 0 ws) := by
  have hleaves : Leaves ws [] := ⟨ws, hws, (List.append_nil ws).symm⟩
  intro started stack _ haccepted
  rwa [outside_of_leaves hleaves] at haccepted

/-- Spaces behind a text make no selector list acceptable. -/
theorem acceptedIf_append (cs : List Char) :
    AcceptedIf (tokensFrom 0 cs) (tokensFrom 0 (cs ++ ws)) := by
  induction hlength : cs.length using Nat.strong_induction_on generalizing cs with
  | _ n ih =>
    cases cs with
    | nil => exact acceptedIf_spaces hws
    | cons c cs =>
      rw [List.cons_append, tokensFrom_cons, tokensFrom_cons]
      have hlast (h : Unmoved (fun t => t.isPlain = true) (takeToken c) cs) :
          AcceptedIf
            ((takeToken c cs).1 :: tokensFrom 0 (cs.drop (cs.length - (takeToken c cs).2.length)))
            ((takeToken c (cs ++ ws)).1 :: tokensFrom 0
              ((cs ++ ws).drop ((cs ++ ws).length - (takeToken c (cs ++ ws)).2.length))) := by
        obtain ⟨hend, hplain | hsame⟩ := h
        · rw [hend, List.length_nil, Nat.sub_zero, List.drop_length]
          exact AcceptedIf.of_isPlain hplain _
        · rw [hsame ws hws, hend, List.length_nil, Nat.sub_zero, Nat.sub_zero, List.drop_length,
            List.drop_length]
          exact AcceptedIf.refl _
      cases ending_takeToken c cs with
      | inside t rest reads =>
        have hread : takeToken c cs = (t, rest) := by simpa using reads [] Quiet.nil.stops
        rw [reads ws (Quiet.of_spaces hws).stops, hread, drop_of_append]
        refine AcceptedIf.cons (ih _ ?_ _ rfl) t
        rw [List.length_drop, ← hlength, List.length_cons]
        omega
      | atEnd t reads unmoved => exact hlast unmoved
      | cutOff swallows unmoved => exact hlast unmoved

end

theorem isBlank_of_isSpace {c : Char} (h : isSpace c = true) : Text.isBlank c = true := by
  rcases isSpace_cases h with rfl | rfl | rfl | rfl | rfl <;> decide

/-- What trimming takes off a text with plain ends. -/
theorem exists_spaces_of_plainEnds {s : String} (h : plainEnds s = true) :
    ∃ before behind, (∀ c ∈ before, isSpace c = true) ∧ (∀ c ∈ behind, isSpace c = true) ∧
      s.toList = before ++ ((Text.trim s).toList ++ behind) := by
  obtain ⟨hfront, hback⟩ := (Bool.and_eq_true _ _).mp h
  refine ⟨s.toList.takeWhile Text.isBlank,
    (s.toList.dropWhile Text.isBlank).rtakeWhile Text.isBlank, List.all_eq_true.mp hfront,
    fun c hc => List.all_eq_true.mp hback c (Text.mem_rtakeWhile_of_mem_dropWhile hc), ?_⟩
  rw [Text.trim, String.toList_ofList, Text.takeWhile_append_trimChars]

/-- **A selector that is accepted stays so when it is trimmed**, as long as only spaces of CSS
are trimmed. -/
theorem selectorProblem?_trim {s : String} (h : selectorProblem? s = none)
    (hends : plainEnds s = true) : selectorProblem? (Text.trim s) = none := by
  unfold selectorProblem? topLevel tokens at h ⊢
  rw [Text.blank_trim]
  split at h
  · exact absurd h (by simp)
  rename_i hblank
  rw [if_neg hblank]
  obtain ⟨before, behind, hbefore, hbehind, hs⟩ := exists_spaces_of_plainEnds hends
  rw [hs, outside_of_leaves ⟨before, hbefore, rfl⟩] at h
  exact acceptedIf_append hbehind _ false [] (Or.inl rfl) h

theorem isProperty_trim (property : String) :
    isProperty (Text.trim property) = isProperty property := by
  unfold isProperty
  rw [Text.trim_trim]

end Css

end ThemeOptions
