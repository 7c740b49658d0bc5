import ThemeOptions.Proofs.ClosedFragments
import ThemeOptions.Proofs.Numerals

/-!
# Fragments in which nothing opens

Without quotes, backslashes, slashes and opening brackets a fragment has nothing that its end would
have to close, so it is closed (`isClosed_of_opensNothing`).  Each reader ends before a semicolon
that follows such a text, and its token opens no bracket (`Harmless`).
-/

namespace ThemeOptions.Css

/-- Neither a quote nor a backslash, a slash or an opening bracket. -/
def opensNothing (c : Char) : Bool := !"\"'\\/([\x7b".toList.contains c

theorem ne_of_opensNothing {c d : Char} (h : opensNothing c = true) (hd : opensNothing d = false) :
    c ≠ d := by
  rintro rfl
  exact absurd (h.symm.trans hd) (by decide)

theorem takeName_of_not_mem {cs : List Char} (h : '\\' ∉ cs) :
    (takeName 0 cs).2 = cs.dropWhile isNameChar := by
  induction cs with
  | nil => rfl
  | cons c cs ih =>
    rw [List.mem_cons, not_or] at h
    rw [takeName_of_ne fun e => h.1 e.symm]
    by_cases hname : isNameChar c = true
    · rw [if_pos hname, List.dropWhile_cons_of_pos hname]
      exact ih h.2
    · rw [if_neg hname, List.dropWhile_cons_of_neg hname]

theorem takeName_semicolon {cs : List Char} (h : ∀ d ∈ cs, opensNothing d = true) :
    (takeName 0 (cs ++ [';'])).2 = cs.dropWhile isNameChar ++ [';'] := by
  have hescape : '\\' ∉ cs ++ [';'] := by
    rw [List.mem_append, not_or]
    exact ⟨fun hmem => ne_of_opensNothing (h _ hmem) (by decide) rfl, by decide⟩
  rw [takeName_of_not_mem hescape]
  exact dropWhile_append_stop Quiet.semicolon.stops.first (fun _ => isNameChar_of_isStop) cs

/-- A reading that leaves something of the text, with a token that opens no bracket. -/
def Harmless (reading : Token × List Char) : Prop :=
  reading.2 ≠ [] ∧ reading.1.opens? = none

theorem harmless_name {cs : List Char} (h : ∀ d ∈ cs, opensNothing d = true)
    {f : List Char → Token} (hf : ∀ name, (f name).opens? = none) :
    Harmless (Prod.map f id (takeName 0 (cs ++ [';']))) := by
  refine ⟨?_, hf _⟩
  show (takeName 0 (cs ++ [';'])).2 ≠ []
  simp [takeName_semicolon h]

theorem harmless_takeNamed {cs : List Char} (h : ∀ d ∈ cs, opensNothing d = true) :
    Harmless (takeNamed (cs ++ [';'])) := by
  have hrest : (takeName 0 (cs ++ [';'])).2.head? ≠ some '(' := by
    rw [takeName_semicolon h, ne_eq, head?_append_of_ne (by decide)]
    intro hhead
    have hmem := (List.dropWhile_suffix isNameChar).subset (List.mem_of_mem_head? hhead)
    exact ne_of_opensNothing (h _ hmem) (by decide) rfl
  rw [takeNamed_of_ne (Prod.ext rfl rfl) hrest]
  refine ⟨?_, rfl⟩
  show (takeName 0 (cs ++ [';'])).2 ≠ []
  simp [takeName_semicolon h]

theorem harmless_takeOther {c : Char} {cs : List Char} (hc : opensNothing c = true)
    (h : ∀ d ∈ cs, opensNothing d = true) : Harmless (takeOther c (cs ++ [';'])) := by
  unfold takeOther
  split
  · rename_i rest heq
    obtain ⟨rest', rfl⟩ :=
      prefix_of_append_stop Quiet.semicolon.stops.first ['-', '>'] (by decide) heq
    obtain rfl : rest' ++ [';'] = rest := by simpa using heq
    exact ⟨by simp, rfl⟩
  · rw [← List.cons_append]
    split
    · exact harmless_takeNamed (List.forall_mem_cons.mpr ⟨hc, h⟩)
    · exact ⟨by simp, rfl⟩

theorem harmless_takeMark {c : Char} {cs : List Char} (hc : opensNothing c = true)
    (h : ∀ d ∈ cs, opensNothing d = true) : Harmless (takeMark c (cs ++ [';'])) := by
  have hstop := Quiet.semicolon.stops.first
  have hsingle (t : Token) (ht : t.opens? = none) : Harmless (t, cs ++ [';']) := ⟨by simp, ht⟩
  unfold takeMark
  split
  case h_1 | h_2 | h_4 | h_6 | h_8 | h_18 => exact absurd hc (by decide)
  case h_5 | h_7 | h_9 | h_10 | h_11 | h_12 => exact hsingle _ rfl
  case h_13 | h_14 | h_15 | h_16 | h_17 =>
    rw [takeMatcher_append hstop]
    refine ⟨by simp, ?_⟩
    unfold takeMatcher
    split <;> rfl
  case h_3 =>
    unfold takeHash
    split
    · exact harmless_name h fun _ => rfl
    · exact hsingle _ rfl
  case h_19 =>
    unfold takeLess
    split
    · rename_i rest heq
      obtain ⟨rest', rfl⟩ := prefix_of_append_stop hstop ['!', '-', '-'] (by decide) heq
      obtain rfl : rest' ++ [';'] = rest := by simpa using heq
      exact ⟨by simp, rfl⟩
    · exact hsingle _ rfl
  case h_20 =>
    unfold takeAt
    split
    · exact harmless_name h fun _ => rfl
    · exact hsingle _ rfl
  case h_21 => exact harmless_takeOther hc h

theorem harmless_takeNumeric {cs : List Char} (hnumber : startsNumber cs = true)
    (h : ∀ d ∈ cs, opensNothing d = true) : Harmless (takeNumeric (cs ++ [';'])) := by
  have hstop := Quiet.semicolon.stops.first
  obtain ⟨numeral, -, hcs⟩ := exists_isNumeral hnumber
  have hrest : ∀ d ∈ dropNumber cs, opensNothing d = true := fun d hd =>
    h d (by rw [hcs]; exact List.mem_append_right numeral hd)
  rw [takeNumeric_eq, dropNumber_append hstop]
  unfold takeUnit
  split
  · rename_i more heq
    obtain ⟨rest', hrest'⟩ := prefix_of_append_stop hstop ['%'] (by decide) heq
    rw [hrest'] at heq
    obtain rfl : rest' ++ [';'] = more := by simpa using heq
    exact ⟨by simp, rfl⟩
  · split
    · exact harmless_name hrest fun _ => rfl
    · exact ⟨by simp, rfl⟩

theorem harmless_takeToken {c : Char} {cs : List Char} (hc : opensNothing c = true)
    (h : ∀ d ∈ cs, opensNothing d = true) : Harmless (takeToken c (cs ++ [';'])) := by
  have hstop := Quiet.semicolon.stops.first
  rw [takeToken_eq, ← List.cons_append, startsNumber_append hstop]
  split
  · refine ⟨fun hnil => ?_, rfl⟩
    exact absurd (List.dropWhile_eq_nil_iff.mp hnil ';' (by simp)) (by decide)
  · split
    · rename_i hnumber
      exact harmless_takeNumeric hnumber (List.forall_mem_cons.mpr ⟨hc, h⟩)
    · exact harmless_takeMark hc h

theorem closedFrom_of_opensNothing {cs : List Char} (h : ∀ d ∈ cs, opensNothing d = true) :
    ClosedFrom [] cs := by
  induction hlength : cs.length using Nat.strong_induction_on generalizing cs with
  | _ n ih =>
    cases cs with
    | nil => rfl
    | cons c cs =>
      obtain ⟨hc, hcs⟩ := List.forall_mem_cons.mp h
      obtain ⟨hleaves, hopens⟩ := harmless_takeToken hc hcs
      have hfirst {t : Token} {ts : List Token}
          (hreads : tokensFrom 0 (c :: cs ++ [';']) = t :: ts) : afterToken [] t = [] := by
        rw [List.cons_append, tokensFrom_cons] at hreads
        rw [← (List.cons.inj hreads).1]
        exact afterToken_of_opens?_eq_none hopens
      unfold ClosedFrom
      cases next c cs with
      | inside t k reads =>
        have hreads := reads _ Quiet.semicolon.stops
        have hnil : tokensFrom 0 (c :: cs) = t :: tokensFrom 0 (cs.drop k) := by
          simpa using reads [] Quiet.nil.stops
        have hrest : ClosedFrom [] (cs.drop k) := ih _ (hlength ▸ length_drop_lt c cs k)
          (fun d hd => hcs d (List.mem_of_mem_drop hd)) rfl
        rw [hreads, hnil, outside_cons, outside_cons, hfirst hreads, hrest, List.append_assoc]
      | atEnd t reads =>
        obtain ⟨left, hleft, hreads⟩ := reads _ Quiet.semicolon.stops
        obtain ⟨none, hnone, hnil⟩ := reads [] Quiet.nil.stops
        rw [List.append_nil, hnone.eq_nil] at hnil
        rw [hreads, hnil, hleft.eq_semicolon, outside_cons, outside_cons, hfirst hreads]
        show seen [] t ++ [.semicolon] = seen [] t ++ [] ++ [.semicolon]
        rw [List.append_nil]
      | cutOff swallows => exact absurd swallows hleaves

/-- **A text in which nothing opens is closed.** -/
theorem isClosed_of_opensNothing {s : String} (h : s.toList.all opensNothing = true) :
    isClosed s = true := by
  refine beq_iff_eq.mpr ?_
  unfold topLevel tokens
  rw [String.toList_append]
  exact closedFrom_of_opensNothing (List.all_eq_true.mp h)

end ThemeOptions.Css
