import ThemeOptions.Proofs.SelectorEnds

/-!
# Closed fragments

A fragment is checked as a text of its own, where the end of the text closes what it leaves open.
It is closed if a semicolon behind it is one more token outside brackets.  That is enough: whatever
stops follow, its tokens stay the same and the others follow them (`tokensFrom_append_of_closed`).
-/

namespace ThemeOptions.Css

/-- A text that leaves nothing open: a semicolon behind it is one more token outside brackets. -/
def isClosed (s : String) : Bool := topLevel (s ++ ";") == topLevel s ++ [.semicolon]

/-- Whether a semicolon behind this text is seen, where this stack of brackets is open before it. -/
def ClosedFrom (stack : List Bracket) (cs : List Char) : Prop :=
  outside stack (tokensFrom 0 (cs ++ [';'])) = outside stack (tokensFrom 0 cs) ++ [.semicolon]

theorem closedFrom_of_isClosed {s : String} (h : isClosed s = true) : ClosedFrom [] s.toList := by
  have hclosed := beq_iff_eq.mp h
  unfold topLevel tokens at hclosed
  rwa [String.toList_append] at hclosed

theorem eq_nil_of_outside_semicolon {stack : List Bracket}
    (h : outside stack [.semicolon] = [.semicolon]) : stack = [] := by
  cases stack with
  | nil => rfl
  | cons b stack =>
    rw [outside_cons, outside_nil, List.append_nil] at h
    contradiction

/-- No semicolon is a token that takes more than itself. -/
theorem takeToken_ne_semicolon {c : Char} {cs : List Char}
    (h : (takeToken c (cs ++ [';'])).2 = []) : (takeToken c (cs ++ [';'])).1 ≠ .semicolon := by
  rw [takeToken_eq] at h ⊢
  split
  · simp
  rename_i hspace
  rw [if_neg hspace] at h
  split
  · rw [takeNumeric_eq]
    unfold takeUnit
    split
    · simp
    · split <;> simp
  rename_i hnumber
  rw [if_neg hnumber] at h
  by_cases hsemicolon : c = ';'
  · subst hsemicolon
    have hcs : cs ++ [';'] = [] := h
    simp at hcs
  by_cases hcomment : c = '/' ∧ (cs ++ [';']).head? = some '*'
  · obtain ⟨rfl, hhead⟩ := hcomment
    obtain ⟨rest, hrest⟩ := List.head?_eq_some_iff.mp hhead
    rw [hrest]
    show Token.comment ≠ .semicolon
    decide
  · intro hother
    have := isOther_takeMark hsemicolon hcomment
    rw [hother] at this
    contradiction

/-- The tokens from a character on, whatever stops follow. -/
inductive Next (c : Char) (cs : List Char) : Prop
  /-- One token, and those of a later part of the text. -/
  | inside (t : Token) (k : Nat) (reads : ∀ zs, Stops zs →
      tokensFrom 0 (c :: cs ++ zs) = t :: tokensFrom 0 (cs.drop k ++ zs))
  /-- One token, and those of what follows the text, up to spaces. -/
  | atEnd (t : Token) (reads : ∀ zs, Stops zs →
      ∃ left, Leaves zs left ∧ tokensFrom 0 (c :: cs ++ zs) = t :: tokensFrom 0 left)
  /-- A token that even a semicolon is a part of. -/
  | cutOff (swallows : (takeToken c (cs ++ [';'])).2 = [])

theorem next (c : Char) (cs : List Char) : Next c cs := by
  cases ending_takeToken c cs with
  | inside t rest reads =>
    refine .inside t (cs.length - rest.length) fun zs hzs => ?_
    rw [List.cons_append, tokensFrom_cons, reads zs hzs, drop_of_append]
  | atEnd t reads unmoved =>
    refine .atEnd t fun zs hzs => ?_
    obtain ⟨left, hleft, hread⟩ := reads zs hzs
    refine ⟨left, hleft, ?_⟩
    rw [List.cons_append, tokensFrom_cons, hread, drop_of_leaves hleft]
  | cutOff swallows unmoved => exact .cutOff swallows

/-- A part of a text that is shorter than the text with a character before it. -/
theorem length_drop_lt (c : Char) (cs : List Char) (k : Nat) :
    (cs.drop k).length < (c :: cs).length := by
  rw [List.length_drop, List.length_cons]
  omega

/-- No token that begins in a closed text takes the semicolon behind it. -/
theorem ClosedFrom.leaves {stack : List Bracket} {c : Char} {cs : List Char}
    (h : ClosedFrom stack (c :: cs)) : (takeToken c (cs ++ [';'])).2 ≠ [] := by
  intro swallows
  have hnil (stack : List Bracket) : outside stack (tokensFrom 0 []) = [] := outside_nil stack
  rw [ClosedFrom, List.cons_append, tokensFrom_cons, swallows, List.length_nil, Nat.sub_zero,
    List.drop_length, outside_cons, hnil, List.append_nil, seen] at h
  split at h
  · have hmem : Token.semicolon ∈ [(takeToken c (cs ++ [';'])).1] := by
      rw [h]
      simp
    exact absurd (List.mem_singleton.mp hmem).symm (takeToken_ne_semicolon swallows)
  · simp at h

/-- **What follows a closed text is read as if it stood alone**, up to spaces, and outside brackets.
The induction is on the text, wherever the reading stands in it. -/
theorem tokensFrom_append_of_closed {stack : List Bracket} {cs : List Char}
    (h : ClosedFrom stack cs) :
    (∀ zs, Stops zs → ∃ left, Leaves zs left ∧
      tokensFrom 0 (cs ++ zs) = tokensFrom 0 cs ++ tokensFrom 0 left) ∧
    stackAfter stack (tokensFrom 0 cs) = [] := by
  induction hlength : cs.length using Nat.strong_induction_on generalizing cs stack with
  | _ n ih =>
    cases cs with
    | nil =>
      have hnil : outside stack (tokensFrom 0 []) = [] := outside_nil stack
      rw [ClosedFrom, hnil] at h
      exact ⟨fun zs _ => ⟨zs, Leaves.refl zs, rfl⟩, eq_nil_of_outside_semicolon h⟩
    | cons c cs =>
      cases next c cs with
      | inside t k reads =>
        have hnil : tokensFrom 0 (c :: cs) = t :: tokensFrom 0 (cs.drop k) := by
          simpa using reads [] Quiet.nil.stops
        rw [ClosedFrom, reads _ Quiet.semicolon.stops, hnil, outside_cons, outside_cons,
          List.append_assoc] at h
        obtain ⟨htokens, hstack⟩ :=
          ih _ (hlength ▸ length_drop_lt c cs k) (List.append_cancel_left h) rfl
        rw [hnil]
        refine ⟨fun zs hzs => ?_, hstack⟩
        obtain ⟨left, hleft, heq⟩ := htokens zs hzs
        exact ⟨left, hleft, by rw [reads zs hzs, heq, List.cons_append]⟩
      | atEnd t reads =>
        have hnil : tokensFrom 0 (c :: cs) = [t] := by
          obtain ⟨left, hleft, heq⟩ := reads [] Quiet.nil.stops
          rw [List.append_nil, hleft.eq_nil] at heq
          exact heq
        obtain ⟨left, hleft, heq⟩ := reads _ Quiet.semicolon.stops
        rw [hnil]
        rw [ClosedFrom, heq, hnil, hleft.eq_semicolon, ← List.singleton_append,
          outside_append] at h
        exact ⟨reads, eq_nil_of_outside_semicolon (List.append_cancel_left h)⟩
      | cutOff swallows => exact absurd swallows h.leaves

section

variable {s : String} (h : isClosed s = true) {zs : List Char} (hzs : Stops zs)
include h

theorem stackAfter_of_isClosed : stackAfter [] (tokens s) = [] :=
  (tokensFrom_append_of_closed (closedFrom_of_isClosed h)).2

include hzs

theorem significant_append_of_isClosed :
    significant (tokensFrom 0 (s.toList ++ zs)) =
      significant (tokens s) ++ significant (tokensFrom 0 zs) := by
  obtain ⟨left, hleft, heq⟩ :=
    (tokensFrom_append_of_closed (closedFrom_of_isClosed h)).1 zs hzs
  rw [heq, significant_append, significant_of_leaves hleft]
  rfl

theorem outside_append_of_isClosed :
    outside [] (tokensFrom 0 (s.toList ++ zs)) = topLevel s ++ outside [] (tokensFrom 0 zs) := by
  obtain ⟨left, hleft, heq⟩ :=
    (tokensFrom_append_of_closed (closedFrom_of_isClosed h)).1 zs hzs
  have hstack : stackAfter [] (tokensFrom 0 s.toList) = [] := stackAfter_of_isClosed h
  rw [heq, outside_append, hstack, outside_of_leaves hleft]
  rfl

end

/-- A text is closed just when no token outside brackets is another for the stops behind it. -/
theorem isClosed_iff {s : String} :
    isClosed s = true ↔ ∀ zs, Stops zs →
      outside [] (tokensFrom 0 (s.toList ++ zs)) = topLevel s ++ outside [] (tokensFrom 0 zs) := by
  refine ⟨fun h zs => outside_append_of_isClosed h, fun h => beq_iff_eq.mpr ?_⟩
  have hsemicolon := h [';'] Quiet.semicolon.stops
  unfold topLevel tokens at hsemicolon ⊢
  rw [String.toList_append]
  exact hsemicolon

/-- Trimming spaces of CSS leaves the tokens of a closed text as they are, up to blanks. -/
theorem tokens_of_plainEnds {s : String} (h : isClosed (Text.trim s) = true)
    (hends : plainEnds s = true) :
    significant (tokens s) = significant (tokens (Text.trim s)) ∧
      topLevel s = topLevel (Text.trim s) := by
  obtain ⟨before, behind, hbefore, hbehind, hs⟩ := exists_spaces_of_plainEnds hends
  have hfront : Leaves s.toList ((Text.trim s).toList ++ behind) := ⟨before, hbefore, hs⟩
  have hback : Leaves behind [] := ⟨behind, hbehind, (List.append_nil behind).symm⟩
  have hstops : Stops behind := (Quiet.of_spaces hbehind).stops
  constructor
  · show significant (tokensFrom 0 s.toList) = _
    rw [significant_of_leaves hfront, significant_append_of_isClosed h hstops,
      significant_of_leaves hback]
    exact List.append_nil _
  · show outside [] (tokensFrom 0 s.toList) = _
    rw [outside_of_leaves hfront, outside_append_of_isClosed h hstops, outside_of_leaves hback]
    exact List.append_nil _

end ThemeOptions.Css
