import Mathlib.Data.List.Induction
import ThemeOptions.Css.Fragment

/-!
# Selector lists

The check of a selector list reads its tokens once and only remembers whether the item it is in has
begun.  It says the same as a description that knows nothing of the reading: no token outside
brackets is a mistake, and the commas leave no item empty (`scanSelector_eq_none_iff`).

What it says of a list that fails is about the first token that offends.  Nothing happens before
that token but that the state follows the tokens (`scanSelector_append`).
-/

namespace ThemeOptions.Css

/-- A token that no selector list may hold outside brackets. -/
inductive Token.IsMistake : Token → Prop
  | block : IsMistake (.opening .curly)
  | closing (b : Bracket) : IsMistake (.closing b)
  | semicolon : IsMistake .semicolon
  | badString : IsMistake .badString
  | badUrl : IsMistake .badUrl

/-- What is said of a token that offends. -/
def Token.complaint : Token → String
  | comma => "empty item in selector list"
  | opening _ => "unexpected CurlyBracketBlock"
  | closing .curly => "unexpected CloseCurlyBracket"
  | closing .round => "unexpected CloseParenthesis"
  | closing .square => "unexpected CloseSquareBracket"
  | semicolon => "unexpected Semicolon"
  | _ => "unterminated string"

/-- The items of a selector list. -/
def selectorItems (ts : List Token) : List (List Token) := ts.splitOn .comma

/-- Whether a token offends behind these: it is a mistake, or a comma that ends an empty item. -/
def Offends (before : List Token) (t : Token) : Prop :=
  t.IsMistake ∨ t = .comma ∧ ∀ u ∈ before.getLast?, u = .comma

/-- No token offends. -/
def IsClean (ts : List Token) : Prop :=
  ∀ before t after, ts = before ++ t :: after → ¬Offends before t

/-- The first token that offends, between what comes before and after it. -/
structure IsFirstOffence (ts before : List Token) (t : Token) (after : List Token) : Prop where
  split : ts = before ++ t :: after
  clean : IsClean before
  offends : Offends before t

/-! ### One token -/

theorem Token.isMistake_iff {t : Token} : t.IsMistake ↔ ∃ problem, t.breaks? = some problem := by
  constructor
  · rintro (_ | b | _ | _ | _) <;> exact ⟨_, rfl⟩
  · rintro ⟨problem, h⟩
    unfold breaks? at h
    split at h
    · exact .block
    · exact .closing _
    · exact .semicolon
    · exact .badString
    · exact .badUrl
    · exact absurd h (by simp)

theorem Token.breaks?_eq_none_iff {t : Token} : t.breaks? = none ↔ ¬t.IsMistake := by
  rw [isMistake_iff, Option.eq_none_iff_forall_ne_some, not_exists]

theorem Token.message_unexpected {t : Token} (h : t.complaint = "unexpected " ++ t.shown)
    (selector : String) :
    (SelectorProblem.unexpected t).message selector =
      "invalid selector '" ++ selector ++ "': " ++ t.complaint := by
  have hcut : "': unexpected " = "': " ++ "unexpected " := by decide
  show "invalid selector '" ++ selector ++ "': unexpected " ++ t.shown = _
  rw [h, hcut]
  simp only [String.append_assoc]

theorem Token.message_unterminated {t : Token} (h : t.complaint = "unterminated string")
    (selector : String) :
    SelectorProblem.unterminated.message selector =
      "invalid selector '" ++ selector ++ "': " ++ t.complaint := by
  have hcut : "': unterminated string" = "': " ++ "unterminated string" := by decide
  show "invalid selector '" ++ selector ++ "': unterminated string" = _
  rw [h, hcut]
  simp only [String.append_assoc]

theorem Token.message_of_breaks? {t : Token} {problem : SelectorProblem}
    (h : t.breaks? = some problem) (selector : String) :
    problem.message selector = "invalid selector '" ++ selector ++ "': " ++ t.complaint := by
  unfold breaks? at h
  split at h <;> cases h
  · exact message_unexpected (by decide) selector
  · rename_i b
    exact message_unexpected (by cases b <;> decide) selector
  · exact message_unexpected (by decide) selector
  · exact message_unterminated rfl selector
  · exact message_unterminated rfl selector

/-! ### The check and the items -/

theorem scanSelector_comma (started : Bool) (ts : List Token) :
    scanSelector started (.comma :: ts) =
      if started then scanSelector false ts else some .emptyItem := by
  rw [scanSelector, if_pos rfl]

theorem Token.not_isMistake_comma : ¬comma.IsMistake := by rintro ⟨⟩

theorem scanSelector_of_isMistake {t : Token} (h : t.IsMistake) (started : Bool)
    (ts : List Token) : scanSelector started (t :: ts) = t.breaks? := by
  have hcomma : t ≠ .comma := by
    rintro rfl
    exact Token.not_isMistake_comma h
  obtain ⟨problem, hproblem⟩ := Token.isMistake_iff.mp h
  rw [scanSelector, if_neg hcomma, hproblem]

theorem scanSelector_of_not_isMistake {t : Token} (hcomma : t ≠ .comma) (h : ¬t.IsMistake)
    (started : Bool) (ts : List Token) :
    scanSelector started (t :: ts) = scanSelector true ts := by
  rw [scanSelector, if_neg hcomma, Token.breaks?_eq_none_iff.mpr h]

theorem selectorItems_comma (ts : List Token) :
    selectorItems (.comma :: ts) = [] :: selectorItems ts := by
  rw [selectorItems, List.splitOn_cons_eq_if_modifyHead, if_pos (beq_self_eq_true _), selectorItems]

theorem selectorItems_of_ne {t : Token} (h : t ≠ .comma) (ts : List Token) :
    selectorItems (t :: ts) = (selectorItems ts).modifyHead (t :: ·) := by
  rw [selectorItems, List.splitOn_cons_eq_if_modifyHead, if_neg (by simpa using h), selectorItems]

theorem modifyHead_nil_append (items : List (List Token)) :
    items.modifyHead ([] ++ ·) = items := by
  cases items <;> rfl

/-- What the check accepts from any place in a list, where `item` is what stands before that place
in its item. -/
theorem scanSelector_eq_none_iff (item ts : List Token) :
    scanSelector (!item.isEmpty) ts = none ↔
      (∀ t ∈ ts, ¬t.IsMistake) ∧ [] ∉ (selectorItems ts).modifyHead (item ++ ·) := by
  induction ts generalizing item with
  | nil => cases item <;> simp [scanSelector, selectorItems]
  | cons t ts ih =>
    by_cases hcomma : t = .comma
    · subst hcomma
      have hrest := ih []
      rw [modifyHead_nil_append] at hrest
      rw [scanSelector_comma, selectorItems_comma]
      cases item with
      | nil => simp
      | cons u item => simpa [Token.not_isMistake_comma] using hrest
    by_cases hmistake : t.IsMistake
    · obtain ⟨problem, hproblem⟩ := Token.isMistake_iff.mp hmistake
      rw [scanSelector_of_isMistake hmistake, hproblem]
      simp [hmistake]
    · have hrest := ih (item ++ [t])
      have hnonempty : (!(item ++ [t]).isEmpty) = true := by simp
      rw [hnonempty] at hrest
      rw [scanSelector_of_not_isMistake hcomma hmistake, hrest, selectorItems_of_ne hcomma,
        List.modifyHead_modifyHead]
      simp [hmistake, Function.comp_def]

/-! ### The first offence -/

/-- Whether an item has begun behind these tokens. -/
def itemStarted (before : List Token) : Bool := before.getLast?.any (· != .comma)

theorem itemStarted_concat (before : List Token) (t : Token) :
    itemStarted (before ++ [t]) = (t != .comma) := by
  simp [itemStarted]

theorem itemStarted_eq_false_iff {before : List Token} :
    itemStarted before = false ↔ ∀ u ∈ before.getLast?, u = .comma := by
  unfold itemStarted
  cases before.getLast? <;> simp

/-- A token that does not offend only moves the check on. -/
theorem scanSelector_of_not_offends {before : List Token} {t : Token} (h : ¬Offends before t)
    (ts : List Token) :
    scanSelector (itemStarted before) (t :: ts) =
      scanSelector (itemStarted (before ++ [t])) ts := by
  obtain ⟨hmistake, hitem⟩ := not_or.mp h
  rw [itemStarted_concat]
  by_cases hcomma : t = .comma
  · subst hcomma
    have hstarted : itemStarted before = true := by
      rw [← Bool.not_eq_false, itemStarted_eq_false_iff]
      exact fun hall => hitem ⟨rfl, hall⟩
    rw [scanSelector_comma, if_pos hstarted, bne_self_eq_false]
  · rw [scanSelector_of_not_isMistake hcomma hmistake, bne_iff_ne.mpr hcomma]

/-- A token that offends ends the check with what is said of it. -/
theorem message_of_offends {before : List Token} {t : Token} (h : Offends before t)
    (ts : List Token) (selector : String) :
    (scanSelector (itemStarted before) (t :: ts)).map (SelectorProblem.message selector) =
      some ("invalid selector '" ++ selector ++ "': " ++ t.complaint) := by
  rcases h with hmistake | ⟨rfl, hitem⟩
  · obtain ⟨problem, hproblem⟩ := Token.isMistake_iff.mp hmistake
    rw [scanSelector_of_isMistake hmistake, hproblem, Option.map_some,
      Token.message_of_breaks? hproblem]
  · rw [itemStarted_eq_false_iff.mpr hitem, scanSelector_comma, if_neg (by simp), Option.map_some]
    have hcut : "': empty item in selector list" = "': " ++ Token.comma.complaint := by decide
    show some ("invalid selector '" ++ selector ++ "': empty item in selector list") = _
    rw [hcut]
    simp only [String.append_assoc]

theorem isClean_concat_iff {ts : List Token} {t : Token} :
    IsClean (ts ++ [t]) ↔ IsClean ts ∧ ¬Offends ts t := by
  constructor
  · intro h
    refine ⟨fun before u after hts => h before u (after ++ [t]) ?_, h ts t [] rfl⟩
    rw [hts, List.append_assoc, List.cons_append]
  · rintro ⟨hclean, hlast⟩ before u after hts
    rcases List.eq_nil_or_concat after with rfl | ⟨after, v, rfl⟩
    · obtain ⟨rfl, hu⟩ := List.append_inj' hts rfl
      obtain rfl : t = u := by simpa using hu
      exact hlast
    · have hsplit : ts ++ [t] = (before ++ u :: after) ++ [v] := by simpa using hts
      exact hclean before u after (List.append_inj' hsplit rfl).1

/-- Over tokens that do not offend, the check only follows where items begin. -/
theorem scanSelector_append {before : List Token} (h : IsClean before) (ts : List Token) :
    scanSelector false (before ++ ts) = scanSelector (itemStarted before) ts := by
  induction before using List.reverseRecOn generalizing ts with
  | nil => rfl
  | append_singleton before t ih =>
    obtain ⟨hclean, hlast⟩ := isClean_concat_iff.mp h
    rw [List.append_assoc, List.singleton_append, ih hclean, scanSelector_of_not_offends hlast]

theorem exists_isFirstOffence {ts : List Token} (h : ¬IsClean ts) :
    ∃ before t after, IsFirstOffence ts before t after := by
  induction ts using List.reverseRecOn with
  | nil => exact absurd (fun before t after hts => absurd hts (by simp)) h
  | append_singleton ts t ih =>
    by_cases hclean : IsClean ts
    · have hoffends : Offends ts t := by
        by_contra hlast
        exact h (isClean_concat_iff.mpr ⟨hclean, hlast⟩)
      exact ⟨ts, t, [], rfl, hclean, hoffends⟩
    · obtain ⟨before, u, after, rfl, hbefore, hoffends⟩ := ih hclean
      exact ⟨before, u, after ++ [t], by simp, hbefore, hoffends⟩

/-! ### Selector lists as texts -/

/-- What is to be said of a selector list that is none: about its first token that offends, or of
its end if no token does. -/
inductive Complains (s : String) : String → Prop
  | blank (h : Text.blank s = true) : Complains s "selector is empty"
  | offence {before after : List Token} {t : Token} (filled : Text.blank s = false)
      (first : IsFirstOffence (topLevel s) before t after) :
      Complains s ("invalid selector '" ++ s ++ "': " ++ t.complaint)
  | trailing (filled : Text.blank s = false) (clean : IsClean (topLevel s))
      (ends : ∀ u ∈ (topLevel s).getLast?, u = .comma) :
      Complains s ("invalid selector '" ++ s ++ "': trailing comma")

theorem message_of_isFirstOffence {ts before after : List Token} {t : Token}
    (h : IsFirstOffence ts before t after) (selector : String) :
    (scanSelector false ts).map (SelectorProblem.message selector) =
      some ("invalid selector '" ++ selector ++ "': " ++ t.complaint) := by
  rw [h.split, scanSelector_append h.clean, message_of_offends h.offends]

theorem scanSelector_of_isClean {ts : List Token} (h : IsClean ts) :
    scanSelector false ts = if itemStarted ts then none else some .trailingComma := by
  have hrun := scanSelector_append h []
  rwa [List.append_nil, scanSelector] at hrun

theorem complains_iff_of_blank {s : String} (h : Text.blank s = true) {message : String} :
    Complains s message ↔ "selector is empty" = message := by
  constructor
  · rintro (_ | ⟨hfilled, -⟩ | ⟨hfilled, -⟩)
    · rfl
    · exact absurd (h.symm.trans hfilled) (by simp)
    · exact absurd (h.symm.trans hfilled) (by simp)
  · rintro rfl
    exact .blank h

/-- What is said of a filled text is what the check of its tokens finds. -/
theorem complains_iff_of_filled {s : String} (h : Text.blank s = false) {message : String} :
    Complains s message ↔
      (scanSelector false (topLevel s)).map (SelectorProblem.message s) = some message := by
  constructor
  · rintro (hblank | ⟨-, hfirst⟩ | ⟨-, hclean, hends⟩)
    · exact absurd (h.symm.trans hblank) (by simp)
    · exact message_of_isFirstOffence hfirst s
    · rw [scanSelector_of_isClean hclean, itemStarted_eq_false_iff.mpr hends]
      rfl
  · intro hmessage
    by_cases hclean : IsClean (topLevel s)
    · rw [scanSelector_of_isClean hclean] at hmessage
      cases hstarted : itemStarted (topLevel s) with
      | true => exact absurd hmessage (by simp [hstarted])
      | false =>
        rw [hstarted] at hmessage
        obtain rfl := Option.some.inj hmessage
        exact .trailing h hclean (itemStarted_eq_false_iff.mp hstarted)
    · obtain ⟨before, t, after, hfirst⟩ := exists_isFirstOffence hclean
      rw [message_of_isFirstOffence hfirst] at hmessage
      obtain rfl := Option.some.inj hmessage
      exact .offence h hfirst

/-- **Which selector lists are accepted, and what is said of the others.** -/
theorem selectorProblem?_described (s : String) :
    (selectorProblem? s = none ↔
      Text.blank s = false ∧ (∀ t ∈ topLevel s, ¬t.IsMistake) ∧ [] ∉ selectorItems (topLevel s)) ∧
    ∀ message, (selectorProblem? s).map (SelectorProblem.message s) = some message ↔
      Complains s message := by
  cases hblank : Text.blank s with
  | true =>
    have hproblem : selectorProblem? s = some .blank := by
      rw [selectorProblem?, if_pos hblank]
    refine ⟨by simp [hproblem], fun message => ?_⟩
    rw [hproblem, Option.map_some, Option.some.injEq]
    exact (complains_iff_of_blank hblank).symm
  | false =>
    have hproblem : selectorProblem? s = scanSelector false (topLevel s) := by
      rw [selectorProblem?, if_neg (by simp [hblank])]
    rw [hproblem]
    have haccepted := scanSelector_eq_none_iff [] (topLevel s)
    rw [modifyHead_nil_append] at haccepted
    exact ⟨by simpa using haccepted, fun message => (complains_iff_of_filled hblank).symm⟩

theorem selectorProblem?_described_samples :
    selectorProblem? "ul > li, a[href='x;y'] /* , */" = none ∧
    Complains ".a, , b; c" "invalid selector '.a, , b; c': empty item in selector list" ∧
    Complains "/* nothing */" "invalid selector '/* nothing */': trailing comma" := by
  refine ⟨(selectorProblem?_described _).1.mpr ⟨by decide +kernel, ?_, by decide +kernel⟩,
    ((selectorProblem?_described _).2 _).mp (by decide +kernel),
    ((selectorProblem?_described _).2 _).mp (by decide +kernel)⟩
  have hnone : ∀ t ∈ topLevel "ul > li, a[href='x;y'] /* , */", t.breaks? = none := by
    decide +kernel
  exact fun t ht => Token.breaks?_eq_none_iff.mp (hnone t ht)

end ThemeOptions.Css
