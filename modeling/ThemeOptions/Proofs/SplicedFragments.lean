import ThemeOptions.Proofs.PlainFragments
import ThemeOptions.Proofs.SelectorLists
import ThemeOptions.Proofs.StylesheetBlocks

/-!
# Fragments in a style sheet

A selector and a property are checked as texts of their own, where the end of the text closes what
they leave open.  In a style sheet more text follows, and what is open goes on in it.  So not every
fragment that is accepted leaves the style sheet around it whole (`accepted_but_open`).

A rule put together from closed fragments reads as such (`readsAsRule_of_isClosed`).
-/

namespace ThemeOptions

namespace Css

/-- A style sheet reads as the rule with this selector and one declaration: outside brackets there
are the selector and one block, and inside the block the property, a colon, the value and a
semicolon. -/
structure ReadsAsRule (selector property value sheet : String) : Prop where
  outside : topLevel sheet = topLevel selector ++ [.opening .curly]
  inside : significant (tokens sheet) = significant (tokens selector) ++
    .opening .curly :: (topLevel property ++
      .colon :: (topLevel value ++ [.semicolon, .closing .curly]))

instance (selector property value sheet : String) :
    Decidable (ReadsAsRule selector property value sheet) :=
  decidable_of_iff
    (topLevel sheet = topLevel selector ++ [.opening .curly] ∧
      significant (tokens sheet) = significant (tokens selector) ++
        .opening .curly :: (topLevel property ++
          .colon :: (topLevel value ++ [.semicolon, .closing .curly])))
    ⟨fun ⟨outside, inside⟩ => ⟨outside, inside⟩, fun ⟨outside, inside⟩ => ⟨outside, inside⟩⟩

theorem toList_stylesheet (d : Declaration) :
    (stylesheet [d]).toList = d.selector.toList ++ ' ' :: '\x7b' :: '\n' :: ' ' :: ' ' ::
      (d.property.toList ++ ':' :: ' ' :: (d.value.toList ++ [';', '\n', '\x7d', '\n'])) := by
  rw [stylesheet_cons]
  simp [Declaration.blockLine, stylesheetFrom, String.toList_append]

theorem stops_of_ne {c : Char} (h : isStop c = true) (hspace : isSpace c = false) (hslash : c ≠ '/')
    (zs : List Char) : Stops (c :: zs) where
  first := by
    rintro d ⟨⟩
    exact h
  filled := by
    rw [List.dropWhile_cons_of_neg (by simp [hspace])]
    rintro d ⟨⟩
    exact h
  noComment e := hslash (Option.some.inj e)

theorem significant_single {c : Char} {t : Token} {zs : List Char}
    (h : takeToken c zs = (t, zs)) (ht : t.isFiller = false) :
    significant (tokensFrom 0 (c :: zs)) = t :: significant (tokensFrom 0 zs) := by
  rw [tokensFrom_of_suffix h List.suffix_rfl, significant_of_not_isFiller ht]

theorem significant_of_topLevel_ident {s n : String} (h : topLevel s = [.ident n]) :
    significant (tokens s) = [.ident n] := by
  rw [← h]
  refine significant_eq_outside fun t ht => ?_
  have hident : t ∈ topLevel s := ht
  rw [h, List.mem_singleton] at hident
  rw [hident]
  rfl

/-- **Closed texts are read as the rule that they are written as.** -/
theorem readsAsRule_of_isClosed {d : Declaration} {n m : String}
    (hselector : isClosed d.selector = true) (hproperty : isClosed d.property = true)
    (hvalue : isClosed d.value = true) (hn : topLevel d.property = [.ident n])
    (hm : topLevel d.value = [.ident m]) :
    ReadsAsRule d.selector d.property d.value (stylesheet [d]) := by
  have hlast : significant (tokensFrom 0 [';', '\n', '\x7d', '\n']) =
      [.semicolon, .closing .curly] := by decide
  have hline : significant (tokensFrom 0
      (d.property.toList ++ ':' :: ' ' :: (d.value.toList ++ [';', '\n', '\x7d', '\n']))) =
        [.ident n, .colon, .ident m, .semicolon, .closing .curly] := by
    rw [significant_append_of_isClosed hproperty (stops_of_ne rfl rfl (by decide) _),
      significant_of_topLevel_ident hn, significant_single (t := .colon) rfl rfl,
      significant_of_leaves (leaves_cons rfl _), significant_append_of_isClosed hvalue
        (stops_of_ne rfl rfl (by decide) _), significant_of_topLevel_ident hm, hlast]
    rfl
  have hblock : significant (tokensFrom 0 (' ' :: '\x7b' :: '\n' :: ' ' :: ' ' ::
      (d.property.toList ++ ':' :: ' ' :: (d.value.toList ++ [';', '\n', '\x7d', '\n'])))) =
        [.opening .curly, .ident n, .colon, .ident m, .semicolon, .closing .curly] := by
    rw [significant_of_leaves (leaves_cons rfl _),
      significant_single (t := .opening .curly) rfl rfl, significant_of_leaves (leaves_cons rfl _),
      significant_of_leaves (leaves_cons rfl _), significant_of_leaves (leaves_cons rfl _), hline]
  have hstops (zs : List Char) : Stops (' ' :: '\x7b' :: zs) :=
    { first := by rintro c ⟨⟩; decide
      filled := by rintro c ⟨⟩; decide
      noComment := by simp }
  constructor
  · show outside [] (tokensFrom 0 (stylesheet [d]).toList) = _
    rw [toList_stylesheet, outside_append_of_isClosed hselector (hstops _), ← outside_significant,
      hblock]
    rfl
  · show significant (tokensFrom 0 (stylesheet [d]).toList) = _
    rw [toList_stylesheet, significant_append_of_isClosed hselector (hstops _), hblock, hn, hm]
    rfl

theorem exists_ident_of_isProperty {property : String} (h : isProperty property = true) :
    ∃ n, topLevel (Text.trim property) = [.ident n] := by
  unfold isProperty at h
  split at h
  · rename_i n hn
    exact ⟨n, hn⟩
  · exact absurd h (by simp)

/-- **An accepted fragment does not break the style sheet if it is closed.**  Closed are the texts
that no stops behind them change outside brackets, among them all in which nothing opens. -/
theorem accepted_reads_as_rule (selector property value m id : String) (live : Bool) :
    (∀ text : String, isClosed text = true ↔ ∀ zs, Stops zs →
      outside [] (tokensFrom 0 (text.toList ++ zs)) =
        topLevel text ++ outside [] (tokensFrom 0 zs)) ∧
    (∀ text : String, text.toList.all opensNothing = true → isClosed text = true) ∧
    (selectorProblem? selector = none → plainEnds selector = true → isProperty property = true →
      topLevel value = [.ident m] →
      [Text.trim selector, Text.trim property, value].all isClosed = true →
      ∃ n, topLevel (Text.trim property) = [.ident n] ∧
        (∀ t ∈ topLevel selector, ¬t.IsMistake) ∧
        ReadsAsRule selector (Text.trim property) value
          (stylesheet [⟨Text.trim selector, Text.trim property, value, id, live⟩])) := by
  refine ⟨fun _ => isClosed_iff, fun _ => isClosed_of_opensNothing, ?_⟩
  intro hselector hends hproperty hvalue hclosed
  obtain ⟨n, hn⟩ := exists_ident_of_isProperty hproperty
  simp only [List.all_cons, List.all_nil, Bool.and_true, Bool.and_eq_true] at hclosed
  obtain ⟨hs, hp, hv⟩ := hclosed
  have hscan : scanSelector (!([] : List Token).isEmpty) (topLevel selector) = none := by
    unfold selectorProblem? at hselector
    split at hselector
    · exact absurd hselector (by simp)
    · exact hselector
  have hrule := readsAsRule_of_isClosed
    (d := ⟨Text.trim selector, Text.trim property, value, id, live⟩) hs hp hv hn hvalue
  obtain ⟨hsignificant, htop⟩ := tokens_of_plainEnds hs hends
  refine ⟨n, hn, ((scanSelector_eq_none_iff [] _).mp hscan).1, ?_, ?_⟩
  · rw [htop]
    exact hrule.outside
  · rw [hsignificant]
    exact hrule.inside

theorem accepted_reads_as_rule_list :
    selectorProblem? " ul > li:not(.x), a[href='x;y'] /* , */ " = none ∧
    isProperty " --accent " = true ∧
    ∃ n, topLevel (Text.trim " --accent ") = [.ident n] ∧
      (∀ t ∈ topLevel " ul > li:not(.x), a[href='x;y'] /* , */ ", ¬t.IsMistake) ∧
      ReadsAsRule " ul > li:not(.x), a[href='x;y'] /* , */ " (Text.trim " --accent ") "red"
        (stylesheet [⟨Text.trim " ul > li:not(.x), a[href='x;y'] /* , */ ",
          Text.trim " --accent ", "red", "accent", true⟩]) :=
  have haccepted : selectorProblem? " ul > li:not(.x), a[href='x;y'] /* , */ " = none := by
    decide +kernel
  ⟨haccepted, by decide +kernel, (accepted_reads_as_rule _ _ _ "red" "accent" true).2.2 haccepted
    (by decide +kernel) (by decide +kernel) (by decide +kernel) (by decide +kernel)⟩

/-- Accepted texts that are not closed: a comment, a bracket, an address, a quoted text and an
escape that the end of the text closes, and a selector that ends with a no-break space, which is a
name when it is checked and is trimmed when it is written. -/
theorem accepted_but_open :
    (∀ selector ∈ ["a/*", "a[b", ":not(a", "a url(b", "a \"b", "a\\", "h1,\u00a0"],
      selectorProblem? selector = none ∧
      ¬ReadsAsRule selector "color" "red"
        (stylesheet [⟨Text.trim selector, "color", "red", "accent", true⟩])) ∧
    ∀ property ∈ ["color/*", "color\\"],
      isProperty property = true ∧
      ¬ReadsAsRule "a" property "red" (stylesheet [⟨"a", property, "red", "accent", true⟩]) := by
  decide +kernel

end Css

end ThemeOptions
