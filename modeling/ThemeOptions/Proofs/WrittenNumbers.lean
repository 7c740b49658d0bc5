import ThemeOptions.Proofs.CleanContributions
import ThemeOptions.Proofs.FiniteFloats
import ThemeOptions.Proofs.FontDeclarations
import ThemeOptions.Proofs.Places
import ThemeOptions.Value.Document
import ThemeOptions.Yaml.Core

/-!
# Numbers in declarations

A finite number is written as a numeral: an optional minus, digits, and maybe a point with digits
behind it.  The tokens of a style sheet read that as one number (`Value.isNumber_formatNumber`), so a
number that comes back from a store of texts is declared like the number itself
(`Schema.stored_numbers_alike`).

A float that is not finite is written as a word.  Nothing keeps one from being declared
(`words_declared`), but nothing else that is numeric is declared as anything but a number with its
unit (`Schema.numeric_values_declared`).
-/

namespace ThemeOptions

/-! ### Numerals -/

namespace Css

theorem isDigits_toDigits (n : Nat) : IsDigits (Nat.toDigits 10 n) :=
  ⟨Nat.toDigits_ne_nil, fun _ hd => Nat.isDigit_of_mem_toDigits (by decide) (by decide) hd⟩

theorem isDigit_of_mem_replicate {n : Nat} {d : Char} (h : d ∈ List.replicate n '0') :
    d.isDigit = true := by
  rw [List.eq_of_mem_replicate h]
  decide

/-- Digits with a point, placed anywhere. -/
theorem isMantissa_placePoint {digits : List Char} (h : IsDigits digits) (point : Int) :
    IsMantissa (Decimal.placePoint false digits point) := by
  obtain ⟨hne, hdigits⟩ := h
  unfold Decimal.placePoint
  split
  · have hzero : ∀ d ∈ ['0'], d.isDigit = true := by simp
    refine IsMantissa.point hzero ⟨by simp [hne], fun d hd => ?_⟩
    rcases List.mem_append.mp hd with hd | hd
    · exact isDigit_of_mem_replicate hd
    · exact hdigits d hd
  · rename_i hpoint
    split
    · rw [if_neg Bool.false_ne_true, List.append_nil]
      refine .whole ⟨by simp [hne], fun d hd => ?_⟩
      rcases List.mem_append.mp hd with hd | hd
      · exact hdigits d hd
      · exact isDigit_of_mem_replicate hd
    · rename_i hshort
      refine .point (fun d hd => hdigits d (List.mem_of_mem_take hd))
        ⟨?_, fun d hd => hdigits d (List.mem_of_mem_drop hd)⟩
      rw [ne_eq, List.drop_eq_nil_iff]
      omega

/-- A finite float without an exponent is a numeral. -/
theorem isNumeral_writeChars {x : Float} (h : Decimal.isFinite x = true) :
    IsNumeral (Decimal.Layout.plain.writeChars x) := by
  have hwritten (d : Decimal.Digits) (sign : List Char) (hsign : IsSign sign) :
      IsNumeral (sign ++ Decimal.Layout.plain.writeDigits d) := by
    have hnumeral := IsNumeral.mk hsign (isMantissa_placePoint (isDigits_toDigits d.digits)
      ((Nat.toDigits 10 d.digits).length + d.exponent - 1 + 1)) .none
    rwa [List.append_nil] at hnumeral
  unfold Decimal.isFinite at h
  unfold Decimal.Layout.writeChars
  cases hx : Decimal.Binary.ofFloat x with
  | nan => rw [hx] at h; cases h
  | infinite negative => rw [hx] at h; cases h
  | finite negative mantissa exponent =>
    have hsign : IsSign (if negative = true then ['-'] else []) := by
      cases negative
      · exact .none
      · exact .minus
    dsimp only
    split
    · exact hwritten _ _ hsign
    · exact hwritten _ _ hsign

/-! ### Blanks around a numeral -/

theorem isBlank_of_isDigit {c : Char} (h : c.isDigit = true) : Text.isBlank c = false := by
  have hrange : 48 ≤ c.toNat ∧ c.toNat ≤ 57 := by
    simpa [Char.isDigit, UInt32.le_iff_toNat_le] using h
  exact Text.isBlank_of_mem_range (by omega)

theorem IsSign.isBlank_eq_false {sign : List Char} (h : IsSign sign) :
    ∀ c ∈ sign, Text.isBlank c = false := by
  cases h with
  | none => simp
  | plus => simp [Text.isBlank]
  | minus => simp [Text.isBlank]

/-- No blank stands in a numeral. -/
theorem IsNumeral.isBlank_eq_false {cs : List Char} (h : IsNumeral cs) :
    ∀ c ∈ cs, Text.isBlank c = false := by
  obtain ⟨hsign, hmantissa, hexponent⟩ := h
  intro c hc
  simp only [List.mem_append] at hc
  rcases hc with hc | hc | hc
  · exact hsign.isBlank_eq_false c hc
  · cases hmantissa with
    | whole digits => exact isBlank_of_isDigit (digits.2 c hc)
    | point whole fraction =>
      rcases List.mem_append.mp hc with hc | hc
      · exact isBlank_of_isDigit (whole c hc)
      · rcases List.mem_cons.mp hc with rfl | hc
        · decide
        · exact isBlank_of_isDigit (fraction.2 c hc)
  · cases hexponent with
    | none => contradiction
    | some mark signed digits =>
      rcases List.mem_cons.mp hc with rfl | hc
      · rcases mark with rfl | rfl <;> decide
      · rcases List.mem_append.mp hc with hc | hc
        · exact signed.isBlank_eq_false c hc
        · exact isBlank_of_isDigit (digits.2 c hc)

end Css

/-! ### Numbers as texts -/

namespace Value

theorem isFinite_of_beq_zero {n : Float} (h : (n == 0) = true) : Decimal.isFinite n = true := by
  obtain ⟨-, -, hzero⟩ := Float.beq_iff_ne_nan_and_eq.mp h
  rcases hzero with rfl | ⟨rfl, -⟩ | ⟨rfl, -⟩ <;> decide +kernel

theorem isNumeral_formatNumber {n : Float} (h : Decimal.isFinite n = true) :
    Css.IsNumeral (formatNumber n).toList := by
  unfold formatNumber
  split
  · decide
  · rw [Decimal.Layout.write, String.toList_ofList]
    exact Css.isNumeral_writeChars h

theorem trim_formatNumber {n : Float} (h : Decimal.isFinite n = true) {before after : String}
    (hbefore : Text.blank before = true) (hafter : Text.blank after = true) :
    Text.trim (before ++ formatNumber n ++ after) = formatNumber n :=
  Text.trim_append hbefore (isNumeral_formatNumber h).isBlank_eq_false hafter

/-- **What is written of a float is a number just when the float is finite.** -/
theorem isNumber_formatNumber (n : Float) :
    Css.isNumber (formatNumber n) = Decimal.isFinite n := by
  cases h : Decimal.isFinite n with
  | true =>
    refine ((Css.isNumeral_trim_iff _).mp ?_).1
    rw [Text.trim_eq_self (isNumeral_formatNumber h).isBlank_eq_false]
    exact isNumeral_formatNumber h
  | false =>
    have hzero : ¬(n == 0) = true := fun e => by
      rw [isFinite_of_beq_zero e] at h
      cases h
    rw [formatNumber, if_neg hzero, Decimal.Layout.write, Decimal.Layout.writeChars]
    unfold Decimal.isFinite at h
    cases hn : Decimal.Binary.ofFloat n with
    | nan => decide +kernel
    | infinite negative => cases negative <;> decide +kernel
    | finite negative mantissa exponent => rw [hn] at h; cases h

/-- What a store of texts makes of a value: a finite number may come back as its text, with blanks
around it or not. -/
inductive StoredAs : Value → Value → Prop where
  | same (v : Value) : StoredAs v v
  | number {n : Float} {before after : String} (finite : Decimal.isFinite n = true)
    (hbefore : Text.blank before = true) (hafter : Text.blank after = true) :
    StoredAs (number n) (text (before ++ formatNumber n ++ after))

namespace StoredAs

variable {v w : Value}

theorem isEmpty_eq (h : v.StoredAs w) : w.isEmpty = v.isEmpty := by
  cases h with
  | same => rfl
  | number finite hbefore hafter =>
    rw [isEmpty, isEmpty, ← Bool.not_eq_true, ← Text.trim_eq_empty_iff,
      trim_formatNumber finite hbefore hafter]
    exact formatNumber_ne_empty _

theorem render_eq (h : v.StoredAs w) (unit : String) : w.render unit = v.render unit := by
  cases h with
  | same => rfl
  | number finite hbefore hafter =>
    have hnumber := (isNumber_formatNumber _).trans finite
    simp only [render, trim_formatNumber finite hbefore hafter, hnumber, if_true]

end StoredAs

end Value

namespace Entry

variable {e : Entry} {v w : Value}

/-- A rule without a transform declares a stored number like the number itself. -/
theorem compileRule_of_storedAs (h : v.StoredAs w) {r : Rule} (hname : r.transform? = none)
    (origin : Option String) (ts : Transforms) :
    e.compileRule origin ts w r = e.compileRule origin ts v r := by
  unfold compileRule
  rw [hname]
  show e.emit r r.property w = e.emit r r.property v
  unfold emit
  rw [h.isEmpty_eq, h.render_eq]

theorem outcomeAt_of_storedAs (h : v.StoredAs w) (hfont : e.isFont = false) {item : Nat} {r : Rule}
    (hrule : e.rules[item]? = some r) (hname : r.transform? = none) (origin : Option String)
    (ts : Transforms) : e.outcomeAt origin ts w item = e.outcomeAt origin ts v item := by
  rw [outcomeAt_of_rule hfont hrule, outcomeAt_of_rule hfont hrule, h.isEmpty_eq,
    compileRule_of_storedAs h hname]

theorem compile_of_storedAs (h : v.StoredAs w) (hfont : e.isFont = false)
    (hplain : ∀ r ∈ e.rules, r.transform? = none) (origin : Option String) (ts : Transforms) :
    e.compile origin ts w = e.compile origin ts v := by
  unfold compile
  rw [h.isEmpty_eq, hfont]
  simp only [Bool.false_eq_true, if_false]
  rw [List.map_congr_left fun r hr => compileRule_of_storedAs h (hplain r hr) origin ts]

end Entry

/-- **A number that is stored as a text is compiled like the number.**  Let a store give back some of
the finite numbers as their texts.  Then every rule without a transform of an option that is no font
gives what it gives for the number: its own property with the number and the unit.  If all options
whose values were changed have only such rules, the compilations are the same altogether. -/
theorem Schema.stored_numbers_alike {numbers texts : Source}
    (hstored : ∀ id, (numbers id).StoredAs (texts id)) (s : Schema) (ts : Transforms) :
    (∀ p sec e r, s.entryAt? p = some (sec, e) → e.isFont = false →
      e.rules[p.itemIndex]? = some r → r.transform? = none →
      s.outcomeAt texts ts p = s.outcomeAt numbers ts p ∧
      ∀ n, numbers e.id = .number n → e.isStatic = false → Text.blank r.property = false →
        s.outcomeAt texts ts p = e.declare r.selector (Text.trim r.property)
          (Value.formatNumber n ++ r.unitText)) ∧
    ((∀ x ∈ s.entries, texts x.2.id ≠ numbers x.2.id →
        x.2.isFont = false ∧ ∀ r ∈ x.2.rules, r.transform? = none) →
      s.compile texts ts = s.compile numbers ts) := by
  refine ⟨fun p sec e r hp hfont hrule hname => ?_, fun hplain => ?_⟩
  · have halike : s.outcomeAt texts ts p = s.outcomeAt numbers ts p := by
      rw [outcomeAt_of_entryAt? hp, outcomeAt_of_entryAt? hp]
      exact Entry.outcomeAt_of_storedAs (hstored e.id) hfont hrule hname sec.origin ts
    refine ⟨halike, fun n hn hstatic hproperty => ?_⟩
    have hfilled : (numbers e.id).isEmpty = false := by rw [hn, Value.isEmpty]
    rw [halike, outcomeAt_eq_compileRule hp hstatic hfont hrule hfilled, hn, Entry.compileRule,
      hname]
    show e.emit r r.property (.number n) = _
    rw [Entry.emit, hproperty]
    rfl
  · have houtcomes : s.outcomes texts ts = s.outcomes numbers ts := by
      refine List.flatMap_congr fun x hx => ?_
      obtain ⟨sec, e⟩ := x
      by_cases hsame : texts e.id = numbers e.id
      · simp only [hsame]
      · obtain ⟨hfont, hrules⟩ := hplain (sec, e) hx hsame
        exact Entry.compile_of_storedAs (hstored e.id) hfont hrules sec.origin ts
    rw [compile, compile, houtcomes]

namespace Sample

/-- A rule that negates its value first. -/
def negated : Rule := ⟨"margin", ".box", some "px", some "negative_spacing"⟩

/-- A gap and a width that are written as they are, and a margin that is negated first. -/
def spaced : Schema where
  sections :=
    [{ id := "layout"
       origin := some "theme"
       options := Keyed.ofList
        [{ id := "gap", rules := [⟨"gap", ".box", some "px", none⟩] },
         { id := "width", rules := [⟨" width ", ".box", some "rem", some " "⟩] },
         { id := "margin", rules := [negated] }] }]

/-- No gap, a width and a margin. -/
def measured : Source := fun id =>
  if id == "gap" then .number (-0) else if id == "width" then .number 1.5 else .number 3

/-- The same with the gap and the width as texts. -/
def recorded : Source := fun id =>
  if id == "gap" then .text "0" else if id == "width" then .text "\u00a01.5 " else .number 3

theorem storedAs_recorded (id : String) : (measured id).StoredAs (recorded id) := by
  have hgap : "0" = "" ++ Value.formatNumber (-0) ++ "" := by decide +kernel
  have hwidth : "\u00a01.5 " = "\u00a0" ++ Value.formatNumber 1.5 ++ " " := by decide +kernel
  unfold measured recorded
  split
  · rw [hgap]
    exact .number (by decide +kernel) (by decide +kernel) (by decide +kernel)
  · split
    · rw [hwidth]
      exact .number (by decide +kernel) (by decide +kernel) (by decide +kernel)
    · exact .same _

end Sample

/-- A zero with a sign comes back without it, and a width with blanks around it. -/
theorem stored_numbers_alike_spaced :
    (∀ id, (Sample.measured id).StoredAs (Sample.recorded id)) ∧
    Sample.spaced.outcomeAt Sample.recorded Transforms.builtins ⟨0, 0, 0⟩ =
      .declaration ⟨".box", "gap", "0px", "gap", false⟩ ∧
    Sample.spaced.outcomeAt Sample.recorded Transforms.builtins ⟨0, 1, 0⟩ =
      .declaration ⟨".box", "width", "1.5rem", "width", false⟩ ∧
    Sample.spaced.compile Sample.recorded Transforms.builtins =
      Sample.spaced.compile Sample.measured Transforms.builtins := by
  obtain ⟨hplaces, hwhole⟩ := Schema.stored_numbers_alike Sample.storedAs_recorded Sample.spaced
    Transforms.builtins
  have hplain : ∀ x ∈ Sample.spaced.entries, x.2.id ≠ "margin" →
      x.2.isFont = false ∧ ∀ r ∈ x.2.rules, r.transform? = none := by decide +kernel
  -- the margin has a transform, but its value is the same in both
  refine ⟨Sample.storedAs_recorded, ?_, ?_, hwhole fun x hx hchanged => hplain x hx fun hmargin =>
    hchanged ?_⟩
  · rw [(hplaces ⟨0, 0, 0⟩ _ _ _ rfl rfl rfl rfl).2 (-0) rfl rfl rfl]
    decide +kernel
  · rw [(hplaces ⟨0, 1, 0⟩ _ _ _ rfl rfl rfl rfl).2 1.5 rfl rfl rfl]
    decide +kernel
  · rw [hmargin]
    rfl

/-! ### Numbers that are handed on -/

/-- Whether a rule hands numbers on: it names no transform, or a built-in one that keeps its
property. -/
def Rule.HandsOn (r : Rule) (ts : Transforms) : Prop :=
  ∀ name, r.transform? = some name →
    ∃ b : Builtin, b.keepsProperty = true ∧ ts.get? name = some (.builtin b)

/-- The float that a rule reads of a value.  A text that is not transformed stands as it is. -/
def Rule.float? (r : Rule) (v : Value) : Option Float :=
  match r.transform?, v with
  | none, .text _ => none
  | _, v => v.number?

namespace Builtin

variable {b : Builtin} {v : Value} {r : Rule} {x : Float}

/-- What is made of a float has the property of the rule, and is finite just when the float is. -/
theorem apply_of_keepsProperty (hkeeps : b.keepsProperty = true) (hx : v.number? = some x) :
    ∃ y, b.apply v r = .ok ⟨r.property, .number y⟩ ∧
      Decimal.isFinite y = Decimal.isFinite x := by
  unfold apply
  rw [hx]
  cases b with
  | spacing => exact ⟨x, rfl, rfl⟩
  | negativeSpacing => exact ⟨-x, rfl, Decimal.isFinite_neg x⟩
  | halfSpacing => exact ⟨x / 2, rfl, Decimal.isFinite_half x⟩
  | aspectRatio => cases hkeeps

end Builtin

namespace Value

variable {v : Value}

theorem isEmpty_of_isNumeric (h : v.isNumeric = true) : v.isEmpty = false := by
  cases v with
  | number n => rfl
  | text t =>
    have hnumber : Css.isNumber t = true := h
    rw [isEmpty, ← Bool.not_eq_true, ← Text.trim_eq_empty_iff]
    intro hblank
    rw [← Css.isNumber_trim, hblank] at hnumber
    exact absurd hnumber (by decide +kernel)
  | _ => cases h

/-- A numeric value is written with the unit behind it. -/
theorem render_of_isNumeric (h : v.isNumeric = true) (unit : String) :
    v.render unit = v.render "" ++ unit := by
  rw [render_eq, if_pos h]

end Value

namespace Entry

variable {ts : Transforms} {v : Value} {r : Rule}

/-- A rule that hands numbers on either refuses a numeric value, or gives what comes of a numeric
value under its own property. -/
theorem compileRule_of_handsOn (e : Entry) (origin : Option String) (hnumeric : v.isNumeric = true)
    (hhands : r.HandsOn ts) :
    (r.transform?.isSome = true ∧ v.number? = none ∧
        (e.compileRule origin ts v r).declaration? = none) ∨
    (r.transform? = none ∨ v.number?.isSome = true) ∧
      ∃ w : Value, w.isNumeric = true ∧ e.compileRule origin ts v r = e.emit r r.property w ∧
        (Css.isNumber (w.render "") = true ↔
          ∀ x, r.float? v = some x → Decimal.isFinite x = true) := by
  cases hname : r.transform? with
  | none =>
    refine Or.inr ⟨Or.inl rfl, v, hnumeric, by rw [compileRule, hname], ?_⟩
    cases v with
    | number n =>
      have hfloat : r.float? (.number n) = some n := by simp only [Rule.float?, hname, Value.number?]
      rw [hfloat, Value.render, String.append_empty, Value.isNumber_formatNumber]
      simp
    | text t =>
      have hfloat : r.float? (.text t) = none := by simp only [Rule.float?, hname]
      have hnumber : Css.isNumber (Text.trim t) = true := (Css.isNumber_trim t).trans hnumeric
      have hrender : (Value.text t).render "" = Text.trim t := by
        rw [Value.render, if_pos hnumber, String.append_empty]
      rw [hfloat, hrender]
      simp [hnumber]
    | _ => cases hnumeric
  | some name =>
    obtain ⟨b, hkeeps, ht⟩ := hhands name hname
    have hcompile := e.compileRule_of_get? hname ht origin v
    have hfloat : r.float? v = v.number? := by simp only [Rule.float?, hname]
    cases hx : v.number? with
    | none =>
      refine Or.inl ⟨rfl, rfl, ?_⟩
      rw [hcompile, transformed, Transform.apply, Builtin.apply, hx]
      rfl
    | some x =>
      obtain ⟨y, happly, hfinite⟩ := b.apply_of_keepsProperty (r := r) hkeeps hx
      refine Or.inr ⟨Or.inr rfl, .number y, rfl, by
        rw [hcompile, transformed, Transform.apply, happly], ?_⟩
      rw [Value.render, String.append_empty, Value.isNumber_formatNumber, hfinite, hfloat, hx]
      simp

end Entry

/-- **What is declared of a numeric value.**  Let a rule hand numbers on.  Then it declares a number,
or a text that is one, unless its property is blank, its option is static, or it names a transform
and the text is no numeral.  The declared value is a text with the unit behind it, and that text is a
number just when the float that the rule reads, if it reads one, is finite. -/
theorem Schema.numeric_values_declared {s : Schema} {values : Source} {ts : Transforms} {p : Place}
    {sec : Section} {e : Entry} {r : Rule} (hp : s.entryAt? p = some (sec, e))
    (hfont : e.isFont = false) (hrule : e.rules[p.itemIndex]? = some r)
    (hnumeric : (values e.id).isNumeric = true) (hhands : r.HandsOn ts) :
    ((∃ d, s.outcomeAt values ts p = .declaration d) ↔
      e.isStatic = false ∧ Text.blank r.property = false ∧
        (r.transform? = none ∨ (values e.id).number?.isSome = true)) ∧
    ∀ d, s.outcomeAt values ts p = .declaration d →
      ∃ t, d.value = t ++ r.unitText ∧
        (Css.isNumber t = true ↔
          ∀ x, r.float? (values e.id) = some x → Decimal.isFinite x = true) := by
  have hfilled := Value.isEmpty_of_isNumeric hnumeric
  cases hstatic : e.isStatic with
  | true =>
    rw [outcomeAt_of_entryAt? hp, Entry.outcomeAt_of_isStatic hstatic]
    simp
  | false =>
    rw [outcomeAt_eq_compileRule hp hstatic hfont hrule hfilled]
    rcases e.compileRule_of_handsOn sec.origin hnumeric hhands with
      ⟨hnamed, hnone, hrefused⟩ | ⟨hread, w, hw, hcompile, hnumber⟩
    · have hno (d : Declaration) :
          e.compileRule sec.origin ts (values e.id) r ≠ .declaration d := fun hd => by
        rw [hd] at hrefused
        cases hrefused
      refine ⟨⟨fun ⟨d, hd⟩ => absurd hd (hno d), fun ⟨_, _, hread⟩ => ?_⟩,
        fun d hd => absurd hd (hno d)⟩
      rcases hread with hread | hread
      · rw [hread] at hnamed
        cases hnamed
      · rw [hnone] at hread
        cases hread
    · rw [hcompile]
      refine ⟨⟨fun ⟨d, hd⟩ => ⟨rfl, (Entry.emit_eq_declaration hd).1, hread⟩,
        fun ⟨_, hproperty, _⟩ => ?_⟩, fun d hd => ⟨w.render "", ?_, hnumber⟩⟩
      · rw [Entry.emit, hproperty, Value.isEmpty_of_isNumeric hw]
        exact ⟨_, rfl⟩
      · obtain ⟨-, -, rfl⟩ := Entry.emit_eq_declaration hd
        exact Value.render_of_isNumeric hw r.unitText

/-- The numeral keeps its number although blanks stand around it and it is negated. -/
theorem numeric_values_declared_margin :
    Sample.negated.HandsOn Transforms.builtins ∧
    ∃ d t, Sample.spaced.outcomeAt (Source.constant (.text " 1.5 ")) Transforms.builtins ⟨0, 2, 0⟩ =
        .declaration d ∧
      d.value = t ++ "px" ∧ Css.isNumber t = true := by
  have hhands : Sample.negated.HandsOn Transforms.builtins := by
    intro name hname
    obtain rfl : name = "negative_spacing" := by
      have htrim : some (Text.trim "negative_spacing") = some name := hname
      rw [← Option.some.inj htrim]
      decide +kernel
    exact ⟨.negativeSpacing, rfl, rfl⟩
  have hfinite : (Sample.negated.float? (.text " 1.5 ")).all Decimal.isFinite = true := by
    decide +kernel
  have hmargin : Sample.spaced.entryAt? ⟨0, 2, 0⟩ = some (_, _) := rfl
  have hnumeric : (Source.constant (.text " 1.5 ") "margin").isNumeric = true := by
    decide +kernel
  obtain ⟨hdeclared, hvalue⟩ := Schema.numeric_values_declared hmargin rfl rfl hnumeric hhands
  obtain ⟨d, hd⟩ := hdeclared.mpr ⟨rfl, by decide +kernel, Or.inr (by decide +kernel)⟩
  obtain ⟨t, ht, hnumber⟩ := hvalue d hd
  refine ⟨hhands, d, t, hd, ht, hnumber.mpr fun x hx => ?_⟩
  exact (Option.all_eq_true _ _).mp hfinite x hx

/-- A marked word of a document is a float without a value and is declared as a word, and so is a
numeral that is too large for a float once a transform has read it. -/
theorem words_declared :
    Yaml.resolve ".nan" = .ok (.number (.float (0 / 0))) ∧
    Value.ofDocument (.number (.float (0 / 0))) = .ok (.number (0 / 0)) ∧
    (Sample.spaced.outcomeAt (Source.constant (.number (0 / 0))) Transforms.builtins ⟨0, 0, 0⟩ =
      .declaration ⟨".box", "gap", "NaNpx", "gap", false⟩) ∧
    (Value.text "1e400").isNumeric = true ∧
    (Sample.spaced.outcomeAt (Source.constant (.text "1e400")) Transforms.builtins ⟨0, 2, 0⟩ =
      .declaration ⟨".box", "margin", "-infpx", "margin", false⟩) ∧
    ∀ t, t ++ "px" = "NaNpx" ∨ t ++ "px" = "-infpx" → Css.isNumber t = false := by
  refine ⟨rfl, rfl, by decide +kernel, by decide +kernel, by decide +kernel, fun t ht => ?_⟩
  have hcases : t = "NaN" ∨ t = "-inf" := ht.imp
    (fun h => (String.append_left_inj _).mp (h.trans (by decide : "NaNpx" = "NaN" ++ "px")))
    (fun h => (String.append_left_inj _).mp (h.trans (by decide : "-infpx" = "-inf" ++ "px")))
  rcases hcases with rfl | rfl <;> decide +kernel

end ThemeOptions
