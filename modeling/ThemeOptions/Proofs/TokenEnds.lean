import ThemeOptions.Proofs.TokenReaders

/-!
# Where the readers of CSS tokens end

How each reader fares when more text follows the one it reads, as long as no token goes on over what
follows (`Stops`).  It ends inside its text, and what follows does not matter; or it ends with its
text, and takes at most spaces along; or the end of the text cuts it off (`Ending`).  Only then can
it read on in what follows, as a quoted text that is never closed does.

There is one lemma for each reader, in the order in which they call each other, up to
`ending_takeToken`.
-/

namespace ThemeOptions.Css

/-! ### What follows a text -/

/-- A text over which no token before it goes on, not even over its spaces, and which closes no
comment. -/
structure Stops (zs : List Char) : Prop where
  first : ∀ c ∈ zs.head?, isStop c = true
  filled : ∀ c ∈ (zs.dropWhile isSpace).head?, isStop c = true
  noComment : zs.head? ≠ some '/'

/-- Spaces and semicolons.  They close nothing that is open. -/
def Quiet (zs : List Char) : Prop := ∀ c ∈ zs, isSpace c = true ∨ c = ';'

/-- The second text is the first without spaces in front, or with some of them. -/
def Leaves (zs left : List Char) : Prop :=
  ∃ spaces, (∀ c ∈ spaces, isSpace c = true) ∧ zs = spaces ++ left

theorem Leaves.refl (zs : List Char) : Leaves zs zs := ⟨[], by simp, rfl⟩

theorem leaves_cons {c : Char} (h : isSpace c = true) (zs : List Char) : Leaves (c :: zs) zs :=
  ⟨[c], by simpa using h, rfl⟩

theorem leaves_dropWhile (zs : List Char) : Leaves zs (zs.dropWhile isSpace) :=
  ⟨zs.takeWhile isSpace, fun _ => List.mem_takeWhile_imp, List.takeWhile_append_dropWhile.symm⟩

theorem Leaves.eq_semicolon {left : List Char} (h : Leaves [';'] left) : left = [';'] := by
  obtain ⟨spaces, hspaces, hleft⟩ := h
  cases spaces with
  | nil => exact hleft.symm
  | cons c spaces =>
    obtain rfl : ';' = c := (List.cons.inj hleft).1
    exact absurd (hspaces ';' (by simp)) (by decide)

theorem Leaves.eq_nil {left : List Char} (h : Leaves [] left) : left = [] := by
  obtain ⟨spaces, -, hleft⟩ := h
  exact (List.nil_eq_append_iff.mp hleft).2

theorem Stops.first_of_leaves {zs left : List Char} (hzs : Stops zs) (h : Leaves zs left) :
    ∀ c ∈ left.head?, isStop c = true := by
  obtain ⟨spaces, hspaces, rfl⟩ := h
  intro c hc
  cases hspace : isSpace c with
  | true => exact isStop_of_isSpace hspace
  | false =>
    obtain ⟨rest, rfl⟩ := List.head?_eq_some_iff.mp hc
    refine hzs.filled c ?_
    rw [List.dropWhile_append_of_pos hspaces, List.dropWhile_cons_of_neg (by simp [hspace])]
    rfl

namespace Quiet

variable {zs : List Char} (hzs : Quiet zs)

theorem nil : Quiet [] := by simp [Quiet]

theorem semicolon : Quiet [';'] := by simp [Quiet]

theorem of_spaces (h : ∀ c ∈ zs, isSpace c = true) : Quiet zs := fun c hc => Or.inl (h c hc)

include hzs

theorem tail : Quiet zs.tail := fun c hc => hzs c (List.mem_of_mem_tail hc)

theorem isStop_of_mem {c : Char} (hc : c ∈ zs) : isStop c = true := by
  rcases hzs c hc with h | rfl
  · exact isStop_of_isSpace h
  · decide

theorem not_mem {d : Char} (hspace : isSpace d = false) (hsemicolon : d ≠ ';') : d ∉ zs := fun hd =>
  (hzs d hd).elim (fun h => absurd (h.symm.trans hspace) (by decide)) hsemicolon

theorem stops : Stops zs where
  first c hc := hzs.isStop_of_mem (List.mem_of_mem_head? hc)
  filled c hc :=
    hzs.isStop_of_mem ((List.dropWhile_suffix _).subset (List.mem_of_mem_head? hc))
  noComment h := hzs.not_mem (by decide) (by decide) (List.mem_of_mem_head? h)

end Quiet

/-! ### How a reading ends -/

/-- A reading takes the whole text, and spaces behind the text change nothing unless what is read
without them is `ok`. -/
def Unmoved {α : Type} (ok : α → Prop) (read : List Char → α × List Char) (cs : List Char) : Prop :=
  (read cs).2 = [] ∧
    (ok (read cs).1 ∨ ∀ ws, (∀ c ∈ ws, isSpace c = true) → read (cs ++ ws) = read cs)

/-- Where a reading ends that begins at this text, whatever stops follow. -/
inductive Ending {α : Type} (ok : α → Prop) (read : List Char → α × List Char)
    (cs : List Char) : Prop
  /-- Inside the text. -/
  | inside (a : α) (rest : List Char)
      (reads : ∀ zs, Stops zs → read (cs ++ zs) = (a, rest ++ zs))
  /-- With the text, or in the spaces behind it. -/
  | atEnd (a : α)
      (reads : ∀ zs, Stops zs → ∃ left, Leaves zs left ∧ read (cs ++ zs) = (a, left))
      (unmoved : Unmoved ok read cs)
  /-- Nowhere, so that even a semicolon is read as a part of it. -/
  | cutOff (swallows : (read (cs ++ [';'])).2 = []) (unmoved : Unmoved ok read cs)

section

variable {α β : Type} {ok : α → Prop} {read read' : List Char → α × List Char} {cs cs' : List Char}

theorem Unmoved.of_ok {a : α} (h : read cs = (a, [])) (hok : ok a) : Unmoved ok read cs :=
  ⟨by rw [h], Or.inl (by rwa [h])⟩

theorem Unmoved.of_eq (h : ∀ zs, Stops zs → read (cs ++ zs) = read' (cs' ++ zs))
    (hread : Unmoved ok read' cs') : Unmoved ok read cs := by
  have hnil : read cs = read' cs' := by simpa using h [] Quiet.nil.stops
  obtain ⟨hend, hok⟩ := hread
  refine ⟨by rw [hnil, hend], ?_⟩
  rw [hnil]
  exact hok.imp_right fun hws ws hspaces =>
    (h ws (Quiet.of_spaces hspaces).stops).trans (hws ws hspaces)

/-- The ending depends only on what is read when stops follow. -/
theorem Ending.of_eq (h : ∀ zs, Stops zs → read (cs ++ zs) = read' (cs' ++ zs))
    (hread : Ending ok read' cs') : Ending ok read cs := by
  cases hread with
  | inside a rest reads => exact .inside a rest fun zs hzs => (h zs hzs).trans (reads zs hzs)
  | atEnd a reads unmoved =>
    refine .atEnd a (fun zs hzs => ?_) (unmoved.of_eq h)
    rw [h zs hzs]
    exact reads zs hzs
  | cutOff swallows unmoved =>
    exact .cutOff (by rw [h _ Quiet.semicolon.stops, swallows]) (unmoved.of_eq h)

theorem Unmoved.map {ok' : β → Prop} (f : α → β) (hf : ∀ a, ok a → ok' (f a))
    (h : Unmoved ok read cs) : Unmoved ok' (fun cs => Prod.map f id (read cs)) cs :=
  ⟨h.1, h.2.imp (hf _) fun hws ws hspaces => congrArg (Prod.map f id) (hws ws hspaces)⟩

theorem Ending.map {ok' : β → Prop} (f : α → β) (hf : ∀ a, ok a → ok' (f a))
    (h : Ending ok read cs) : Ending ok' (fun cs => Prod.map f id (read cs)) cs := by
  cases h with
  | inside a rest reads => exact .inside (f a) rest fun zs hzs => by rw [reads zs hzs]; rfl
  | atEnd a reads unmoved =>
    refine .atEnd (f a) (fun zs hzs => ?_) (unmoved.map f hf)
    obtain ⟨left, hleft, hread⟩ := reads zs hzs
    exact ⟨left, hleft, by rw [hread]; rfl⟩
  | cutOff swallows unmoved => exact .cutOff swallows (unmoved.map f hf)

/-- Where a reader ends that only drops text, unless nothing quiet ends it. -/
theorem ending_drop {drop : List Char → List Char} (a : α)
    (h : (∃ rest, ∀ zs, Stops zs → drop (cs ++ zs) = rest ++ zs) ∨
      ∀ zs, Quiet zs → drop (cs ++ zs) = []) :
    Ending ok (fun cs => (a, drop cs)) cs := by
  rcases h with ⟨rest, h⟩ | h
  · exact .inside a rest fun zs hzs => by rw [h zs hzs]
  · have hnil : drop cs = [] := by simpa using h [] Quiet.nil
    refine .cutOff (h _ Quiet.semicolon) ⟨hnil, Or.inr fun ws hws => ?_⟩
    show (a, drop (cs ++ ws)) = (a, drop cs)
    rw [hnil, h ws (Quiet.of_spaces hws)]

/-- An induction over a text in which each suffix may be used, for readers that pass escapes. -/
theorem drop_induction {P : List Char → Prop} (hnil : P [])
    (hcons : ∀ c cs, (∀ k, P (cs.drop k)) → P (c :: cs)) (cs : List Char) : P cs := by
  suffices h : ∀ k, P (cs.drop k) from h 0
  induction cs with
  | nil =>
    intro k
    rw [List.drop_nil]
    exact hnil
  | cons c cs ih =>
    intro k
    cases k with
    | zero => exact hcons c cs ih
    | succ k => exact ih k

end

/-! ### Escapes and names -/

theorem dropLineBreak_append (c d : Char) (cs zs : List Char) :
    dropLineBreak (c :: d :: cs ++ zs) = dropLineBreak (c :: d :: cs) ++ zs := by
  by_cases h : c = '\r' ∧ d = '\n'
  · obtain ⟨rfl, rfl⟩ := h
    rfl
  · have hdrop (l : List Char) : dropLineBreak (c :: d :: l) = d :: l := by
      unfold dropLineBreak
      split <;> simp_all
    rw [List.cons_append, List.cons_append, hdrop, hdrop, List.cons_append]

theorem leaves_dropLineBreak (c : Char) (zs : List Char) : Leaves zs (dropLineBreak (c :: zs)) := by
  unfold dropLineBreak
  split
  · rename_i cs heq
    obtain ⟨-, rfl⟩ := List.cons.inj heq
    exact leaves_cons (by decide) cs
  · rename_i cs _ heq
    obtain ⟨-, rfl⟩ := List.cons.inj heq
    exact Leaves.refl _
  · contradiction

theorem leaves_dropSpace (zs : List Char) : Leaves zs (dropSpace zs) := by
  cases zs with
  | nil => exact Leaves.refl []
  | cons c zs =>
    rw [dropSpace]
    split
    · rename_i hbreak
      obtain ⟨spaces, hspaces, hzs⟩ := leaves_dropLineBreak c zs
      refine ⟨c :: spaces, ?_, congrArg (c :: ·) hzs⟩
      exact List.forall_mem_cons.mpr ⟨isSpace_of_isLineBreak hbreak, hspaces⟩
    · split
      · rename_i hspace
        exact leaves_cons hspace zs
      · exact Leaves.refl _

/-- One blank ends inside a text or at its end. -/
theorem dropSpace_append (cs : List Char) :
    (∃ rest, ∀ zs, dropSpace (cs ++ zs) = rest ++ zs) ∨
      ∀ zs, Leaves zs (dropSpace (cs ++ zs)) := by
  match cs with
  | [] => exact Or.inr leaves_dropSpace
  | [c] =>
    by_cases hbreak : isLineBreak c = true
    · right
      intro zs
      rw [List.singleton_append, dropSpace, if_pos hbreak]
      exact leaves_dropLineBreak c zs
    · left
      refine ⟨if isSpace c then [] else [c], fun zs => ?_⟩
      rw [List.singleton_append, dropSpace, if_neg hbreak]
      split <;> rfl
  | c :: d :: cs =>
    left
    by_cases hbreak : isLineBreak c = true
    · refine ⟨dropLineBreak (c :: d :: cs), fun zs => ?_⟩
      rw [← dropLineBreak_append, List.cons_append, dropSpace, if_pos hbreak]
    · refine ⟨if isSpace c then d :: cs else c :: d :: cs, fun zs => ?_⟩
      rw [List.cons_append, dropSpace, if_neg hbreak]
      split <;> rfl

theorem ending_takeEscape (cs : List Char) : Ending (fun _ => True) takeEscape cs := by
  cases cs with
  | nil => exact .cutOff (by decide) (.of_ok rfl trivial)
  | cons c rest =>
    by_cases hhex : isHex c = true
    · have hreads (zs : List Char) (hzs : Stops zs) : takeEscape (c :: rest ++ zs) =
          (charOfCode (hexValue (((c :: rest).take 6).takeWhile isHex)),
            dropSpace ((c :: rest).drop (((c :: rest).take 6).takeWhile isHex).length ++ zs)) := by
        have hlength : (((c :: rest).take 6).takeWhile isHex).length ≤ (c :: rest).length :=
          Nat.le_trans (List.takeWhile_prefix _).length_le (List.take_prefix _ _).length_le
        rw [List.cons_append, takeEscape_of_isHex hhex, ← List.cons_append,
          takeWhile_take_append_stop hzs.first (fun _ => isHex_of_isStop),
          List.drop_append_of_le_length hlength]
      rcases dropSpace_append ((c :: rest).drop (((c :: rest).take 6).takeWhile isHex).length)
        with ⟨after, h⟩ | h
      · exact .inside _ after fun zs hzs => by rw [hreads zs hzs, h]
      · refine .atEnd _ (fun zs hzs => ⟨_, h zs, hreads zs hzs⟩) ⟨?_, Or.inl trivial⟩
        have hnil := hreads [] Quiet.nil.stops
        rw [List.append_nil] at hnil
        rw [hnil]
        exact (h []).eq_nil
    · refine .inside (takeEscape (c :: rest)).1 rest fun zs _ => ?_
      rw [List.cons_append, takeEscape, takeEscape, if_neg hhex, if_neg hhex]
      split <;> rfl

theorem drop_of_leaves {zs left : List Char} (h : Leaves zs left) (cs : List Char) :
    (cs ++ zs).drop ((cs ++ zs).length - left.length) = left := by
  obtain ⟨spaces, -, rfl⟩ := h
  rw [← List.append_assoc, List.length_append, Nat.add_sub_cancel, List.drop_left]

theorem drop_of_append (cs rest zs : List Char) :
    (cs ++ zs).drop ((cs ++ zs).length - (rest ++ zs).length) =
      cs.drop (cs.length - rest.length) ++ zs := by
  rw [List.length_append, List.length_append, Nat.add_sub_add_right,
    List.drop_append_of_le_length (Nat.sub_le _ _)]

theorem behindEscape_of_nil {cs : List Char} (h : (takeEscape cs).2 = []) :
    behindEscape cs = [] := by
  rw [behindEscape, h, List.length_nil, Nat.sub_zero, List.drop_length]

/-- Behind an escape a reader ends as it does behind any character.  If the text ends in the escape,
it stops there, or what follows cuts it off. -/
theorem Ending.escape {α : Type} {ok : α → Prop} (read : List Char → α × List Char) {done : α}
    {cs : List Char} (add : Char → α → α) (hadd : ∀ c a, ok a → ok (add c a))
    (hnil : read [] = (done, [])) (hdone : ok done)
    (hstop : (∀ zs, (∀ c ∈ zs.head?, isStop c = true) → read zs = (done, zs)) ∨
      (read [';']).2 = [])
    (hread : ∀ k, Ending ok read (cs.drop k)) :
    Ending ok (fun cs => Prod.map (add (takeEscape cs).1) id (read (behindEscape cs))) cs := by
  have hunmoved (h : (takeEscape cs).2 = []) :
      Unmoved ok (fun cs => Prod.map (add (takeEscape cs).1) id (read (behindEscape cs))) cs := by
    refine .of_ok (a := add (takeEscape cs).1 done) ?_ (hadd _ _ hdone)
    rw [behindEscape_of_nil h, hnil]
    rfl
  cases ending_takeEscape cs with
  | inside c rest reads =>
    refine ((hread (cs.length - rest.length)).map (add c) (hadd c)).of_eq fun zs hzs => ?_
    rw [behindEscape, reads zs hzs, drop_of_append]
  | atEnd c reads unmoved =>
    rcases hstop with hstop | hswallows
    · refine .atEnd (add c done) (fun zs hzs => ?_) (hunmoved unmoved.1)
      obtain ⟨left, hleft, hescape⟩ := reads zs hzs
      refine ⟨left, hleft, ?_⟩
      rw [behindEscape, hescape, drop_of_leaves hleft, hstop left (hzs.first_of_leaves hleft)]
      rfl
    · refine .cutOff ?_ (hunmoved unmoved.1)
      obtain ⟨left, hleft, hescape⟩ := reads _ Quiet.semicolon.stops
      obtain rfl := hleft.eq_semicolon
      rw [behindEscape, hescape, drop_of_leaves hleft]
      exact hswallows
  | cutOff swallows unmoved =>
    refine .cutOff ?_ (hunmoved unmoved.1)
    rw [behindEscape_of_nil swallows, hnil]
    rfl

/-- Where a name ends. -/
theorem ending_takeName (cs : List Char) : Ending (fun _ => True) (takeName 0) cs := by
  induction cs using drop_induction with
  | hnil =>
    exact .atEnd [] (fun zs hzs => ⟨zs, Leaves.refl zs, takeName_of_stop hzs.first⟩)
      (.of_ok rfl trivial)
  | hcons c cs ih =>
    by_cases hescape : c = '\\'
    · subst hescape
      by_cases hcs : cs = []
      · subst hcs
        exact .cutOff (by decide) (.of_ok rfl trivial)
      cases hbreak : startsWithLineBreak cs with
      | true =>
        refine .inside [] ('\\' :: cs) fun zs _ => ?_
        have hbehind : startsWithLineBreak (cs ++ zs) = true := by
          rw [startsWithLineBreak_append zs hcs, hbreak]
        rw [List.cons_append, takeName_lineBreak hbehind]
      | false =>
        refine Ending.of_eq (fun zs _ => ?_) (Ending.escape (takeName 0) List.cons
          (fun _ _ _ => trivial) rfl trivial (Or.inl fun _ => takeName_of_stop) ih)
        rw [List.cons_append, takeName_escape (by rw [startsWithLineBreak_append zs hcs, hbreak])]
    · by_cases hname : isNameChar c = true
      · refine ((ih 0).map ((if c == '\x00' then replacement else c) :: ·)
          fun _ _ => trivial).of_eq fun zs _ => ?_
        rw [List.cons_append, takeName_of_ne hescape, if_pos hname]
        rfl
      · refine .inside [] (c :: cs) fun zs _ => ?_
        rw [List.cons_append, takeName_of_ne hescape, if_neg hname]

/-! ### Quoted texts, comments and addresses -/

theorem takeQuoted_semicolon {quote : Char} (hquote : quote = '"' ∨ quote = '\'') :
    takeQuoted quote 0 [';'] = (some [';'], []) := by
  rcases hquote with rfl | rfl <;> decide

/-- A quoted text goes on behind a line break with a backslash before it. -/
theorem ending_takeQuoted_lineBreak {quote : Char} (hquote : quote = '"' ∨ quote = '\'')
    {cs : List Char} (hbreak : startsWithLineBreak cs = true)
    (ih : ∀ k, Ending (fun text => text.isSome = true) (takeQuoted quote 0) (cs.drop k)) :
    Ending (fun text => text.isSome = true) (takeQuoted quote 0) ('\\' :: cs) := by
  have hescape : quote ≠ '\\' := by rcases hquote with rfl | rfl <;> decide
  have hcs : cs ≠ [] := by
    rintro rfl
    contradiction
  have hreads (zs : List Char) : takeQuoted quote 0 ('\\' :: cs ++ zs) = takeQuoted quote 0
      ((cs ++ zs).drop ((cs ++ zs).length - (dropLineBreak (cs ++ zs)).length)) := by
    rw [List.cons_append,
      takeQuoted_lineBreak hescape (by rw [startsWithLineBreak_append zs hcs, hbreak])]
  match cs with
  | [] => contradiction
  | [d] =>
    -- the line break is the end of the text, and what follows belongs to the quoted text
    have hdrop (l : List Char) (hl : l.head? ≠ some '\n') : dropLineBreak (d :: l) = l := by
      unfold dropLineBreak
      split <;> simp_all
    refine .cutOff ?_ (.of_ok (a := some []) ?_ rfl)
    · rw [hreads, List.singleton_append, hdrop _ (by decide)]
      exact congrArg Prod.snd (takeQuoted_semicolon hquote)
    · rw [takeQuoted_lineBreak hescape hbreak, hdrop [] (by decide)]
      rfl
  | d :: e :: cs =>
    refine (ih ((d :: e :: cs).length - (dropLineBreak (d :: e :: cs)).length)).of_eq
      fun zs _ => ?_
    rw [hreads, dropLineBreak_append, drop_of_append]

/-- Where a quoted text ends that stands behind this quote. -/
theorem ending_takeQuoted {quote : Char} (hquote : quote = '"' ∨ quote = '\'') (cs : List Char) :
    Ending (fun text => text.isSome = true) (takeQuoted quote 0) cs := by
  have hescape : quote ≠ '\\' := by rcases hquote with rfl | rfl <;> decide
  have hcut : (takeQuoted quote 0 [';']).2 = [] := by rw [takeQuoted_semicolon hquote]
  induction cs using drop_induction with
  | hnil => exact .cutOff hcut (.of_ok (a := some []) rfl rfl)
  | hcons c cs ih =>
    by_cases hc : c = '\\'
    · subst hc
      by_cases hcs : cs = []
      · subst hcs
        refine .cutOff ?_ (.of_ok (takeQuoted_end hescape) rfl)
        rcases hquote with rfl | rfl <;> decide
      cases hbreak : startsWithLineBreak cs with
      | true => exact ending_takeQuoted_lineBreak hquote hbreak ih
      | false =>
        refine Ending.of_eq (fun zs _ => ?_) (Ending.escape (takeQuoted quote 0)
          (fun c => Option.map (c :: ·)) (fun c text htext => ?_) rfl rfl (Or.inr hcut) ih)
        · rw [List.cons_append, takeQuoted_escape hescape (by simp [hcs])
            (by rw [startsWithLineBreak_append zs hcs, hbreak])]
        · rwa [Option.isSome_map]
    · by_cases hclose : (c == quote) = true
      · refine .inside (some []) cs fun zs _ => ?_
        rw [List.cons_append, takeQuoted_of_ne hc, if_pos hclose]
      by_cases hbreak : isLineBreak c = true
      · refine .inside none (c :: cs) fun zs _ => ?_
        rw [List.cons_append, takeQuoted_of_ne hc, if_neg hclose, if_pos hbreak]
      · refine ((ih 0).map (Option.map ((if c == '\x00' then replacement else c) :: ·))
          fun text htext => ?_).of_eq fun zs _ => ?_
        · rwa [Option.isSome_map]
        · rw [List.cons_append, takeQuoted_of_ne hc, if_neg hclose, if_neg hbreak]
          rfl

theorem dropComment_of_not_mem {zs : List Char} (h : '/' ∉ zs) : dropComment zs = [] := by
  induction zs with
  | nil => rfl
  | cons c zs ih =>
    rw [dropComment_cons fun hclose => h (List.mem_cons_of_mem _ (List.mem_of_mem_head? hclose.2))]
    exact ih fun hmem => h (List.mem_cons_of_mem _ hmem)

/-- A comment ends inside its text, or what holds no slash does not close it. -/
theorem dropComment_append (cs : List Char) :
    (∃ rest, ∀ zs, zs.head? ≠ some '/' → dropComment (cs ++ zs) = rest ++ zs) ∨
      ∀ zs, '/' ∉ zs → dropComment (cs ++ zs) = [] := by
  induction cs with
  | nil => exact Or.inr fun zs => dropComment_of_not_mem
  | cons c cs ih =>
    by_cases hclose : c = '*' ∧ cs.head? = some '/'
    · obtain ⟨rfl, hhead⟩ := hclose
      obtain ⟨rest, rfl⟩ := List.head?_eq_some_iff.mp hhead
      exact Or.inl ⟨rest, fun _ _ => rfl⟩
    · have hcons {zs : List Char} (hzs : zs.head? ≠ some '/') :
          dropComment (c :: cs ++ zs) = dropComment (cs ++ zs) := by
        rw [List.cons_append, dropComment_cons]
        rwa [head?_append_of_ne hzs]
      rcases ih with ⟨rest, h⟩ | h
      · exact Or.inl ⟨rest, fun zs hzs => (hcons hzs).trans (h zs hzs)⟩
      · exact Or.inr fun zs hzs =>
          (hcons fun hhead => hzs (List.mem_of_mem_head? hhead)).trans (h zs hzs)

theorem ending_dropComment {α : Type} {ok : α → Prop} (a : α) (cs : List Char) :
    Ending ok (fun cs => (a, dropComment cs)) cs :=
  ending_drop a <| (dropComment_append cs).imp
    (fun ⟨rest, h⟩ => ⟨rest, fun zs hzs => h zs hzs.noComment⟩)
    (fun h zs hzs => h zs (hzs.not_mem (by decide) (by decide)))

theorem dropBadUrl_of_ne {c : Char} (hclose : c ≠ ')') (hescape : c ≠ '\\') (cs : List Char) :
    dropBadUrl (c :: cs) = dropBadUrl cs :=
  dropBadUrl.eq_5 c cs hclose (fun _ h => absurd h hescape) (fun _ h => absurd h hescape)

theorem dropBadUrl_of_quiet {zs : List Char} (h : Quiet zs) : dropBadUrl zs = [] := by
  induction zs with
  | nil => rfl
  | cons c zs ih =>
    have hstop : isStop c = true := h.isStop_of_mem (by simp)
    rw [dropBadUrl_of_ne (ne_of_isStop hstop (by decide)) (ne_of_isStop hstop (by decide))]
    exact ih h.tail

theorem dropBadUrl_append (cs : List Char) :
    (∃ rest, ∀ zs, Stops zs → dropBadUrl (cs ++ zs) = rest ++ zs) ∨
      ∀ zs, Quiet zs → dropBadUrl (cs ++ zs) = [] := by
  induction cs using dropBadUrl.induct with
  | case1 => exact Or.inr fun zs => dropBadUrl_of_quiet
  | case2 cs => exact Or.inl ⟨cs, fun _ _ => rfl⟩
  | case3 cs ih => exact ih
  | case4 cs ih => exact ih
  | case5 c cs hclose hkept hescaped ih =>
    have hcons {zs : List Char} (hzs : Stops zs) :
        dropBadUrl (c :: cs ++ zs) = dropBadUrl (cs ++ zs) := by
      refine dropBadUrl.eq_5 c (cs ++ zs) hclose (fun rest hc hrest => ?_) fun rest hc hrest => ?_
      · obtain ⟨rest', rfl⟩ := prefix_of_append_stop hzs.first [')'] (by decide) hrest
        exact hkept rest' hc rfl
      · obtain ⟨rest', rfl⟩ := prefix_of_append_stop hzs.first ['\\'] (by decide) hrest
        exact hescaped rest' hc rfl
    exact ih.imp (fun ⟨rest, h⟩ => ⟨rest, fun zs hzs => (hcons hzs).trans (h zs hzs)⟩)
      (fun h zs hzs => (hcons hzs.stops).trans (h zs hzs))

theorem ending_dropBadUrl {α : Type} {ok : α → Prop} (a : α) (cs : List Char) :
    Ending ok (fun cs => (a, dropBadUrl cs)) cs :=
  ending_drop a (dropBadUrl_append cs)

theorem dropWhile_append_of_eq_cons {p : Char → Bool} {cs rest : List Char} {d : Char}
    (h : cs.dropWhile p = d :: rest) (zs : List Char) :
    (cs ++ zs).dropWhile p = d :: (rest ++ zs) := by
  rw [List.dropWhile_append, h]
  rfl

theorem dropWhile_append_of_eq_nil {p : Char → Bool} {cs : List Char} (h : cs.dropWhile p = [])
    (zs : List Char) : (cs ++ zs).dropWhile p = zs.dropWhile p := by
  rw [List.dropWhile_append, h]
  rfl

theorem ending_takeUrlEnd (cs : List Char) :
    Ending (fun text => text.isSome = true) takeUrlEnd cs := by
  cases hcs : cs.dropWhile isSpace with
  | nil =>
    refine .cutOff ?_ (.of_ok (a := some []) ?_ rfl)
    · have hspaced : (cs ++ [';']).dropWhile isSpace = [';'] := dropWhile_append_of_eq_nil hcs _
      rw [takeUrlEnd_of_cons hspaced]
      rfl
    · rw [takeUrlEnd, hcs]
  | cons d rest =>
    have hreads (zs : List Char) := takeUrlEnd_of_cons (dropWhile_append_of_eq_cons hcs zs)
    by_cases hd : d = ')'
    · exact .inside (some []) rest fun zs _ => by rw [hreads, if_pos hd]
    · exact (ending_dropBadUrl none rest).of_eq fun zs _ => by rw [hreads, if_neg hd]

/-- Where an address without quotes ends. -/
theorem ending_takeUrl (cs : List Char) :
    Ending (fun text => text.isSome = true) (takeUrl 0) cs := by
  induction cs using drop_induction with
  | hnil => exact .cutOff (by decide) (.of_ok (a := some []) rfl rfl)
  | hcons c cs ih =>
    by_cases hescape : c = '\\'
    · subst hescape
      by_cases hcs : cs = []
      · subst hcs
        exact .cutOff (by decide) (.of_ok (a := some [replacement]) rfl rfl)
      cases hbreak : startsWithLineBreak cs with
      | true =>
        refine (ending_dropBadUrl none cs).of_eq fun zs _ => ?_
        rw [List.cons_append,
          takeUrl_lineBreak (by rw [startsWithLineBreak_append zs hcs, hbreak])]
      | false =>
        refine Ending.of_eq (fun zs _ => ?_) (Ending.escape (takeUrl 0)
          (fun c => Option.map (c :: ·)) (fun c text htext => ?_) rfl rfl (Or.inr (by decide)) ih)
        · rw [List.cons_append, takeUrl_escape (by rw [startsWithLineBreak_append zs hcs, hbreak])]
        · rwa [Option.isSome_map]
    · by_cases hclose : (c == ')') = true
      · refine .inside (some []) cs fun zs _ => ?_
        rw [List.cons_append, takeUrl_of_ne hescape, if_pos hclose]
      by_cases hspace : isSpace c = true
      · refine (ending_takeUrlEnd cs).of_eq fun zs _ => ?_
        rw [List.cons_append, takeUrl_of_ne hescape, if_neg hclose, if_pos hspace]
      by_cases hbad : isBadInUrl c = true
      · refine (ending_dropBadUrl none cs).of_eq fun zs _ => ?_
        rw [List.cons_append, takeUrl_of_ne hescape, if_neg hclose, if_neg hspace, if_pos hbad]
      · refine ((ih 0).map (Option.map ((if c == '\x00' then replacement else c) :: ·))
          fun text htext => ?_).of_eq fun zs _ => ?_
        · rwa [Option.isSome_map]
        · rw [List.cons_append, takeUrl_of_ne hescape, if_neg hclose, if_neg hspace, if_neg hbad]
          rfl

/-! ### Tokens -/

/-- A token that a selector list may end with: it is read, and neither a comma nor a mistake. -/
def Token.isPlain (t : Token) : Bool :=
  !t.isFiller && t != .comma && t.breaks?.isNone

theorem ending_takeString {quote : Char} (hquote : quote = '"' ∨ quote = '\'') (cs : List Char) :
    Ending (fun t => t.isPlain = true) (takeString quote) cs := by
  refine ((ending_takeQuoted hquote cs).map Token.ofQuoted fun text htext => ?_).of_eq
    fun zs _ => takeString_eq quote (cs ++ zs)
  obtain ⟨text, rfl⟩ := Option.isSome_iff_exists.mp htext
  rfl

theorem ending_takeArguments (name arguments : List Char) :
    Ending (fun t => t.isPlain = true) (takeArguments name) arguments := by
  by_cases hurl : (name.map Char.toLower == "url".toList) = true
  · cases harguments : arguments.dropWhile isSpace with
    | nil =>
      refine .cutOff ?_ (.of_ok (a := .url "") ?_ rfl)
      · have hspaced : (arguments ++ [';']).dropWhile isSpace = [';'] :=
          dropWhile_append_of_eq_nil harguments _
        unfold takeArguments
        rw [if_pos hurl, hspaced]
        rfl
      · unfold takeArguments
        rw [if_pos hurl, harguments]
    | cons d rest =>
      have hreads (zs : List Char) : takeArguments name (arguments ++ zs) =
          if d == '"' || d == '\'' then (.function (String.ofList name), arguments ++ zs)
          else Prod.map Token.ofUrl id (takeUrl 0 (d :: rest ++ zs)) := by
        unfold takeArguments
        rw [if_pos hurl, dropWhile_append_of_eq_cons harguments zs]
        rfl
      by_cases hquote : (d == '"' || d == '\'') = true
      · exact .inside (.function (String.ofList name)) arguments fun zs _ => by
          rw [hreads, if_pos hquote]
      · refine ((ending_takeUrl (d :: rest)).map Token.ofUrl fun text htext => ?_).of_eq
          fun zs _ => by rw [hreads, if_neg hquote]
        obtain ⟨text, rfl⟩ := Option.isSome_iff_exists.mp htext
        rfl
  · exact .inside (.function (String.ofList name)) arguments fun zs _ => by
      unfold takeArguments
      rw [if_neg hurl]

theorem ending_takeNamed (cs : List Char) :
    Ending (fun t => t.isPlain = true) takeNamed cs := by
  have hnil {cs : List Char} (h : (takeName 0 cs).2 = []) :
      takeNamed cs = (.ident (String.ofList (takeName 0 cs).1), []) :=
    takeNamed_of_ne (Prod.ext rfl h) (by simp)
  have hunmoved (h : Unmoved (fun _ => True) (takeName 0) cs) :
      Unmoved (fun t => t.isPlain = true) takeNamed cs := .of_ok (hnil h.1) rfl
  cases ending_takeName cs with
  | inside name rest reads =>
    by_cases hbracket : rest.head? = some '('
    · obtain ⟨arguments, rfl⟩ := List.head?_eq_some_iff.mp hbracket
      exact (ending_takeArguments name arguments).of_eq fun zs hzs =>
        takeNamed_of_bracket (reads zs hzs)
    · refine .inside (.ident (String.ofList name)) rest fun zs hzs =>
        takeNamed_of_ne (reads zs hzs) ?_
      rwa [ne_eq, head?_append_stop hzs.first (by decide)]
  | atEnd name reads unmoved =>
    refine .atEnd (.ident (String.ofList name)) (fun zs hzs => ?_) (hunmoved unmoved)
    obtain ⟨left, hleft, hread⟩ := reads zs hzs
    refine ⟨left, hleft, takeNamed_of_ne hread fun h => ?_⟩
    exact absurd rfl (ne_of_isStop (hzs.first_of_leaves hleft _ h) (by decide))
  | cutOff swallows unmoved => exact .cutOff (by rw [hnil swallows]) (hunmoved unmoved)

theorem ending_takeUnit (text : String) (rest : List Char) :
    Ending (fun t => t.isPlain = true) (takeUnit text) rest := by
  by_cases hpercent : rest.head? = some '%'
  · obtain ⟨more, rfl⟩ := List.head?_eq_some_iff.mp hpercent
    exact .inside (.percentage text) more fun _ _ => rfl
  by_cases hrest : rest = ['\\']
  · subst hrest
    exact .cutOff (by rfl) (.of_ok (a := .dimension text (String.ofList [replacement])) rfl rfl)
  have hreads (zs : List Char) (hzs : Stops zs) : takeUnit text (rest ++ zs) =
      if startsName rest then
        Prod.map (fun unit => .dimension text (String.ofList unit)) id (takeName 0 (rest ++ zs))
      else (.number text, rest ++ zs) := by
    rw [takeUnit_of_ne, startsName_append hzs.first hrest]
    rwa [ne_eq, head?_append_stop hzs.first (by decide)]
  by_cases hname : startsName rest = true
  · refine ((ending_takeName rest).map (fun unit => .dimension text (String.ofList unit))
      fun _ _ => rfl).of_eq fun zs hzs => ?_
    rw [hreads zs hzs, if_pos hname]
  · exact .inside (.number text) rest fun zs hzs => by rw [hreads zs hzs, if_neg hname]

theorem ending_takeNumeric (cs : List Char) :
    Ending (fun t => t.isPlain = true) takeNumeric cs := by
  refine (ending_takeUnit (String.ofList (cs.take (cs.length - (dropNumber cs).length)))
    (dropNumber cs)).of_eq fun zs hzs => ?_
  rw [takeNumeric_eq, dropNumber_append hzs.first, List.length_append, List.length_append,
    Nat.add_sub_add_right, List.take_append_of_le_length (Nat.sub_le _ _)]

theorem ending_takeHash (cs : List Char) : Ending (fun t => t.isPlain = true) takeHash cs := by
  by_cases hcs : cs = ['\\']
  · subst hcs
    exact .cutOff (by decide) (.of_ok (a := .hash (String.ofList [replacement])) rfl rfl)
  have hreads (zs : List Char) (hzs : Stops zs) : takeHash (cs ++ zs) =
      if startsName cs || startsWithDigit cs || cs.head? == some '-' then
        Prod.map (fun name => .hash (String.ofList name)) id (takeName 0 (cs ++ zs))
      else (.delim '#', cs ++ zs) := by
    have hhyphen : ((cs ++ zs).head? == some '-') = (cs.head? == some '-') := by
      rw [Bool.eq_iff_iff, beq_iff_eq, beq_iff_eq, head?_append_stop hzs.first (by decide)]
    rw [takeHash, startsName_append hzs.first hcs, startsWithDigit_append hzs.first, hhyphen]
  by_cases hname : (startsName cs || startsWithDigit cs || cs.head? == some '-') = true
  · refine ((ending_takeName cs).map (fun name => Token.hash (String.ofList name))
      fun _ _ => rfl).of_eq fun zs hzs => ?_
    rw [hreads zs hzs, if_pos hname]
  · exact .inside (.delim '#') cs fun zs hzs => by rw [hreads zs hzs, if_neg hname]

theorem ending_takeAt (cs : List Char) : Ending (fun t => t.isPlain = true) takeAt cs := by
  by_cases hcs : cs = ['\\']
  · subst hcs
    exact .cutOff (by decide) (.of_ok (a := .atKeyword (String.ofList [replacement])) rfl rfl)
  by_cases hname : startsName cs = true
  · refine ((ending_takeName cs).map (fun name => Token.atKeyword (String.ofList name))
      fun _ _ => rfl).of_eq fun zs hzs => ?_
    rw [takeAt, startsName_append hzs.first hcs, if_pos hname]
  · refine .inside (.delim '@') cs fun zs hzs => ?_
    rw [takeAt, startsName_append hzs.first hcs, if_neg hname]

theorem ending_takeSlash (cs : List Char) : Ending (fun t => t.isPlain = true) takeSlash cs := by
  by_cases hcomment : cs.head? = some '*'
  · obtain ⟨rest, rfl⟩ := List.head?_eq_some_iff.mp hcomment
    refine (ending_dropComment Token.comment rest).of_eq fun zs _ => ?_
    rfl
  · refine .inside (.delim '/') cs fun zs hzs => ?_
    unfold takeSlash
    split
    · rename_i rest heq
      obtain ⟨rest', rfl⟩ := prefix_of_append_stop hzs.first ['*'] (by decide) heq
      exact absurd rfl hcomment
    · rfl

theorem ending_takeLess (cs : List Char) : Ending (fun t => t.isPlain = true) takeLess cs := by
  by_cases hopen : ∃ rest, cs = '!' :: '-' :: '-' :: rest
  · obtain ⟨rest, rfl⟩ := hopen
    exact .inside .htmlOpen rest fun _ _ => rfl
  · refine .inside (.delim '<') cs fun zs hzs => ?_
    unfold takeLess
    split
    · rename_i rest heq
      exact absurd (prefix_of_append_stop hzs.first ['!', '-', '-'] (by decide) heq) hopen
    · rfl

theorem ending_takeOther (c : Char) (cs : List Char) :
    Ending (fun t => t.isPlain = true) (takeOther c) cs := by
  by_cases hclose : ∃ rest, c :: cs = '-' :: '-' :: '>' :: rest
  · obtain ⟨rest, hrest⟩ := hclose
    obtain ⟨rfl, rfl⟩ := List.cons.inj hrest
    exact .inside .htmlClose rest fun _ _ => rfl
  by_cases hcs : c :: cs = ['\\']
  · obtain ⟨rfl, rfl⟩ := List.cons.inj hcs
    exact .cutOff (by decide) (.of_ok (a := .ident (String.ofList [replacement])) rfl rfl)
  have hreads (zs : List Char) (hzs : Stops zs) : takeOther c (cs ++ zs) =
      if startsName (c :: cs) then takeNamed (c :: cs ++ zs) else (.delim c, cs ++ zs) := by
    have hspaced : ∀ rest, c :: (cs ++ zs) ≠ '-' :: '-' :: '>' :: rest := fun rest h =>
      hclose (prefix_of_append_stop hzs.first ['-', '-', '>'] (by decide) h)
    rw [takeOther_of_ne hspaced, ← List.cons_append, startsName_append hzs.first hcs]
  by_cases hname : startsName (c :: cs) = true
  · refine (ending_takeNamed (c :: cs)).of_eq fun zs hzs => ?_
    rw [hreads zs hzs, if_pos hname]
  · exact .inside (.delim c) cs fun zs hzs => by rw [hreads zs hzs, if_neg hname]

theorem ending_takeMatcher (c : Char) (cs : List Char) :
    Ending (fun t => t.isPlain = true) (takeMatcher c) cs :=
  .inside _ _ fun _ hzs => takeMatcher_append hzs.first c cs

theorem ending_single (t : Token) (cs : List Char) :
    Ending (fun t => t.isPlain = true) (fun cs => (t, cs)) cs :=
  .inside t cs fun _ _ => rfl

theorem ending_takeMark (c : Char) (cs : List Char) :
    Ending (fun t => t.isPlain = true) (takeMark c) cs := by
  unfold takeMark
  split
  · exact ending_takeString (Or.inl rfl) cs
  · exact ending_takeString (Or.inr rfl) cs
  · exact ending_takeHash cs
  iterate 9 exact ending_single _ cs
  iterate 5 exact ending_takeMatcher _ cs
  · exact ending_takeSlash cs
  · exact ending_takeLess cs
  · exact ending_takeAt cs
  · exact ending_takeOther c cs

/-- **Where a token ends**, whichever it is. -/
theorem ending_takeToken (c : Char) (cs : List Char) :
    Ending (fun t => t.isPlain = true) (takeToken c) cs := by
  by_cases hspace : isSpace c = true
  · have hreads (zs : List Char) :
        takeToken c (cs ++ zs) = (.blanks, (cs ++ zs).dropWhile isSpace) := by
      rw [takeToken_eq, if_pos hspace]
    cases hcs : cs.dropWhile isSpace with
    | nil =>
      have hread : takeToken c cs = (.blanks, []) := by
        rw [takeToken_eq, if_pos hspace, hcs]
      refine .atEnd .blanks (fun zs _ => ⟨_, leaves_dropWhile zs, ?_⟩)
        ⟨by rw [hread], Or.inr fun ws hws => ?_⟩
      · rw [hreads, dropWhile_append_of_eq_nil hcs]
      · rw [hreads, dropWhile_append_of_eq_nil hcs, List.dropWhile_eq_nil_iff.mpr hws, hread]
    | cons d rest =>
      exact .inside .blanks (d :: rest) fun zs _ => by
        rw [hreads, dropWhile_append_of_eq_cons hcs]
        rfl
  by_cases hnumber : startsNumber (c :: cs) = true
  · refine (ending_takeNumeric (c :: cs)).of_eq fun zs hzs => ?_
    rw [takeToken_eq, if_neg hspace, ← List.cons_append, startsNumber_append hzs.first,
      if_pos hnumber]
  · refine (ending_takeMark c cs).of_eq fun zs hzs => ?_
    rw [takeToken_eq, if_neg hspace, ← List.cons_append, startsNumber_append hzs.first,
      if_neg hnumber]

end ThemeOptions.Css
