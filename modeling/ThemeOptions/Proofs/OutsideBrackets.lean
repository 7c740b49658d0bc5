import ThemeOptions.Proofs.TokenEnds

/-!
# Tokens outside brackets

Which tokens of a text stand outside its brackets, one token at a time.  Blanks and comments change
neither these tokens nor what is open (`outside_significant`), so spaces before a text do not matter
(`outside_of_leaves`).
-/

namespace ThemeOptions.Css

/-! ### The next token -/

theorem tokensFrom_eq_drop (k : Nat) (cs : List Char) :
    tokensFrom k cs = tokensFrom 0 (cs.drop k) :=
  read_eq_drop (fun _ => rfl) (fun _ _ _ => rfl) k cs

theorem tokensFrom_cons (c : Char) (cs : List Char) :
    tokensFrom 0 (c :: cs) = (takeToken c cs).1 ::
      tokensFrom 0 (cs.drop (cs.length - (takeToken c cs).2.length)) := by
  rw [← tokensFrom_eq_drop]
  rfl

/-- A token that leaves a part of the text is followed by the tokens of that part. -/
theorem tokensFrom_of_suffix {c : Char} {cs rest : List Char} {t : Token}
    (h : takeToken c cs = (t, rest)) (hsuffix : rest <:+ cs) :
    tokensFrom 0 (c :: cs) = t :: tokensFrom 0 rest := by
  obtain ⟨taken, rfl⟩ := hsuffix
  rw [tokensFrom_cons, h, List.length_append, Nat.add_sub_cancel, List.drop_left]

theorem tokensFrom_of_isSpace {c : Char} (h : isSpace c = true) (cs : List Char) :
    tokensFrom 0 (c :: cs) = .blanks :: tokensFrom 0 (cs.dropWhile isSpace) :=
  tokensFrom_of_suffix (by rw [takeToken_eq, if_pos h]) (List.dropWhile_suffix isSpace)

/-! ### What is open -/

/-- The brackets that are open behind a token. -/
def afterToken (stack : List Bracket) (t : Token) : List Bracket :=
  match t.opens?, stack with
  | some b, stack => b :: stack
  | none, [] => []
  | none, b :: stack => if t.closes? = some b then stack else b :: stack

/-- The brackets that are open behind these tokens. -/
def stackAfter (stack : List Bracket) (ts : List Token) : List Bracket :=
  ts.foldl afterToken stack

/-- What is seen of a token outside all brackets. -/
def seen (stack : List Bracket) (t : Token) : List Token :=
  if stack.isEmpty && !t.isFiller then [t] else []

theorem afterToken_of_isFiller {t : Token} (h : t.isFiller = true) (stack : List Bracket) :
    afterToken stack t = stack := by
  unfold Token.isFiller at h
  split at h
  · cases stack <;> rfl
  · cases stack <;> rfl
  · contradiction

theorem afterToken_of_opens?_eq_none {t : Token} (h : t.opens? = none) : afterToken [] t = [] := by
  unfold afterToken
  rw [h]

theorem outside_nil (stack : List Bracket) : outside stack [] = [] := by
  cases stack <;> rfl

theorem outside_cons (stack : List Bracket) (t : Token) (ts : List Token) :
    outside stack (t :: ts) = seen stack t ++ outside (afterToken stack t) ts := by
  cases stack with
  | nil =>
    rw [outside]
    by_cases hfiller : t.isFiller = true
    · rw [if_pos hfiller, afterToken_of_isFiller hfiller, seen, hfiller]
      rfl
    · rw [if_neg hfiller]
      have hseen : seen [] t = [t] := by simp [seen, hfiller]
      rw [hseen]
      unfold afterToken
      cases t.opens? <;> rfl
  | cons b stack =>
    rw [outside]
    unfold afterToken
    cases t.opens? <;> rfl

theorem outside_append (stack : List Bracket) (ts us : List Token) :
    outside stack (ts ++ us) = outside stack ts ++ outside (stackAfter stack ts) us := by
  induction ts generalizing stack with
  | nil => rw [outside_nil]; rfl
  | cons t ts ih => rw [List.cons_append, outside_cons, outside_cons, ih, List.append_assoc]; rfl

/-! ### Blanks and comments -/

/-- The tokens that are neither blanks nor comments. -/
def significant (ts : List Token) : List Token := ts.filter fun t => !t.isFiller

theorem significant_append (ts us : List Token) :
    significant (ts ++ us) = significant ts ++ significant us :=
  List.filter_append ..

theorem significant_of_isFiller {t : Token} (h : t.isFiller = true) (ts : List Token) :
    significant (t :: ts) = significant ts :=
  List.filter_cons_of_neg (by simp [h])

theorem significant_of_not_isFiller {t : Token} (h : t.isFiller = false) (ts : List Token) :
    significant (t :: ts) = t :: significant ts :=
  List.filter_cons_of_pos (by simp [h])

theorem outside_of_isFiller {t : Token} (h : t.isFiller = true) (stack : List Bracket)
    (ts : List Token) : outside stack (t :: ts) = outside stack ts := by
  rw [outside_cons, afterToken_of_isFiller h, seen, h]
  simp

/-- **Blanks and comments do not count** for what stands outside brackets. -/
theorem outside_significant (stack : List Bracket) (ts : List Token) :
    outside stack (significant ts) = outside stack ts := by
  induction ts generalizing stack with
  | nil => rfl
  | cons t ts ih =>
    cases hfiller : t.isFiller with
    | true => rw [significant_of_isFiller hfiller, outside_of_isFiller hfiller, ih]
    | false => rw [significant_of_not_isFiller hfiller, outside_cons, outside_cons, ih]

/-- Where nothing opens, every token that counts is outside brackets. -/
theorem significant_eq_outside {ts : List Token} (h : ∀ t ∈ outside [] ts, t.opens? = none) :
    significant ts = outside [] ts := by
  induction ts with
  | nil => rfl
  | cons t ts ih =>
    cases hfiller : t.isFiller with
    | true =>
      rw [outside_of_isFiller hfiller] at h ⊢
      rw [significant_of_isFiller hfiller, ih h]
    | false =>
      have hseen : seen [] t = [t] := by simp [seen, hfiller]
      rw [outside_cons, hseen] at h ⊢
      rw [afterToken_of_opens?_eq_none (h t (by simp))] at h ⊢
      rw [significant_of_not_isFiller hfiller, ih fun u hu => h u (by simp [hu])]
      rfl

/-- Leading spaces are one token that does not count. -/
theorem significant_of_leaves {zs left : List Char} (h : Leaves zs left) :
    significant (tokensFrom 0 zs) = significant (tokensFrom 0 left) := by
  obtain ⟨spaces, hspaces, rfl⟩ := h
  have hdrop (cs : List Char) :
      significant (tokensFrom 0 (cs.dropWhile isSpace)) = significant (tokensFrom 0 cs) := by
    cases cs with
    | nil => rfl
    | cons c cs =>
      by_cases hc : isSpace c = true
      · rw [List.dropWhile_cons_of_pos hc, tokensFrom_of_isSpace hc, significant_of_isFiller rfl]
      · rw [List.dropWhile_cons_of_neg hc]
  rw [← hdrop, List.dropWhile_append_of_pos hspaces, hdrop]

theorem outside_of_leaves {zs left : List Char} (h : Leaves zs left) (stack : List Bracket) :
    outside stack (tokensFrom 0 zs) = outside stack (tokensFrom 0 left) := by
  rw [← outside_significant, significant_of_leaves h, outside_significant]

end ThemeOptions.Css
