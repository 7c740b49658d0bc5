import Mathlib.Data.List.Basic
import ThemeOptions.Value.Document

/-!
# Option values in documents

A document is read as an option value just when it is a scalar or a mapping from font fields to
scalars.  Of two spellings of a font field the later one counts.  What is written of a value is read
back as that value, unless it is a font with a font in one of its fields.
-/

namespace ThemeOptions

/-! ### Which documents are option values -/

namespace Document

/-- Null, a truth value, a number or a text, seen through tags. -/
def isScalar (d : Document) : Bool :=
  match d.untagged with
  | null | bool _ | number _ | string _ => true
  | _ => false

/-- Whether a pair is a font field with its value. -/
def isFontField (pair : Document × Document) : Bool :=
  (pair.1.string?.bind FontField.parse?).isSome && pair.2.isScalar

/-- A scalar, or a mapping from names of font fields to scalars, each seen through tags. -/
def isOptionValue (d : Document) : Bool :=
  match d.untagged with
  | mapping pairs => pairs.all isFontField
  | _ => d.isScalar

theorem untagged_ne_tagged (d value : Document) (tag : String) : d.untagged ≠ tagged tag value := by
  fun_induction untagged d with
  | case1 tag' d ih => exact ih
  | case2 d h => exact h tag value

end Document

namespace Value

theorem ofDocument_untagged (d : Document) : ofDocument d = ofDocument d.untagged := by
  fun_induction Document.untagged d with
  | case1 tag d ih => rw [ofDocument, ih]
  | case2 d h => rfl

theorem isFont_of_ofPairs {pairs : List (Document × Document)} {fields : FontTable Value}
    {v : Value} (h : ofPairs pairs fields = .ok v) : v.isFont = true := by
  induction pairs generalizing fields with
  | nil =>
    rw [ofPairs] at h
    obtain rfl := Except.ok.inj h
    rfl
  | cons pair pairs ih =>
    obtain ⟨key, value⟩ := pair
    rw [ofPairs] at h
    split at h
    · cases h
    · split at h
      · cases h
      · split at h
        · cases h
        · cases h
        · exact ih h

theorem isScalar_iff (d : Document) :
    d.isScalar = true ↔ ∃ v, ofDocument d = .ok v ∧ v.isFont = false := by
  rw [ofDocument_untagged, Document.isScalar]
  have huntagged := Document.untagged_ne_tagged d
  cases hd : d.untagged with
  | tagged tag value => exact absurd hd (huntagged value tag)
  | sequence items => simp [ofDocument]
  | mapping pairs =>
    simp only [ofDocument, Bool.false_eq_true, false_iff, not_exists, not_and, Bool.not_eq_false]
    exact fun v h => isFont_of_ofPairs h
  | _ => simp [ofDocument, isFont]

theorem exists_eq_font {v : Value} (h : v.isFont = true) : ∃ fields, v = font fields := by
  cases v with
  | font fields => exact ⟨fields, rfl⟩
  | _ => cases h

/-- A field with a single value is set before the others are read. -/
theorem ofPairs_cons {key value : Document} {name : String} {f : FontField} {v : Value}
    (hname : key.string? = some name) (hfield : FontField.parse? name = some f)
    (hvalue : ofDocument value = .ok v) (hfont : v.isFont = false)
    (pairs : List (Document × Document)) (fields : FontTable Value) :
    ofPairs ((key, value) :: pairs) fields = ofPairs pairs (fields.set f v) := by
  rw [ofPairs]
  simp only [hname, hfield, hvalue]
  cases v with
  | font table => cases hfont
  | _ => rfl

theorem exists_ofPairs_iff (pairs : List (Document × Document)) (fields : FontTable Value) :
    (∃ v, ofPairs pairs fields = .ok v) ↔ pairs.all Document.isFontField = true := by
  induction pairs generalizing fields with
  | nil => simp [ofPairs]
  | cons pair pairs ih =>
    obtain ⟨key, value⟩ := pair
    rw [List.all_cons, Bool.and_eq_true, Document.isFontField, Bool.and_eq_true, isScalar_iff]
    cases hname : key.string? with
    | none => simp [ofPairs, hname]
    | some name =>
      cases hfield : FontField.parse? name with
      | none => simp [ofPairs, hname, hfield]
      | some f =>
        cases hvalue : ofDocument value with
        | error problem => simp [ofPairs, hname, hfield, hvalue]
        | ok v =>
          cases hfont : v.isFont with
          | true =>
            obtain ⟨table, rfl⟩ := exists_eq_font hfont
            simp [ofPairs, hname, hfield, hvalue, isFont]
          | false =>
            rw [ofPairs_cons hname hfield hvalue hfont, ih]
            simp [hfield, hfont]

theorem exists_ofDocument_iff (d : Document) :
    (∃ v, ofDocument d = .ok v) ↔ d.isOptionValue = true := by
  rw [ofDocument_untagged, Document.isOptionValue, Document.isScalar]
  have huntagged := Document.untagged_ne_tagged d
  cases hd : d.untagged with
  | tagged tag value => exact absurd hd (huntagged value tag)
  | mapping pairs => exact exists_ofPairs_iff pairs FontTable.empty
  | _ => simp [ofDocument]

end Value

/-! ### Tables over the font fields -/

theorem FontField.parse?_name (f : FontField) : FontField.parse? f.name = some f := by
  cases f <;> decide +kernel

theorem FontField.eq_of_name_eq {f g : FontField} (h : f.name = g.name) : f = g := by
  have hparse := FontField.parse?_name f
  rw [h, FontField.parse?_name] at hparse
  exact (Option.some.inj hparse).symm

namespace FontTable

variable {α : Type}

/-- Sets several fields, one after the other. -/
def setAll (t : FontTable α) (entries : List (FontField × α)) : FontTable α :=
  entries.foldl (fun t x => t.set x.1 x.2) t

theorem setAll_filterMap (t table : FontTable α) (fs : List FontField) :
    table.setAll (fs.filterMap fun f => (t f).map (f, ·)) =
      fun f => if f ∈ fs then (t f).or (table f) else table f := by
  induction fs generalizing table with
  | nil => rfl
  | cons g fs ih =>
    cases hg : t g with
    | none =>
      rw [List.filterMap_cons_none (by simp [hg]), ih]
      funext f
      by_cases hf : f = g <;> simp [hf, hg]
    | some a =>
      rw [List.filterMap_cons_some (by simp [hg]; rfl), setAll, List.foldl_cons, ← setAll, ih]
      funext f
      by_cases hf : f = g <;> simp [hf, hg, set]

/-- A table is made of its fields. -/
theorem setAll_toList (t : FontTable α) : empty.setAll t.toList = t := by
  rw [toList, setAll_filterMap]
  funext f
  simp [FontField.mem_all, empty]

/-- What stands last under a field. -/
def last? (entries : List (FontField × α)) (f : FontField) : Option α :=
  ((entries.filter (·.1 == f)).getLast?).map Prod.snd

theorem last?_cons (x : FontField × α) (entries : List (FontField × α)) (f : FontField) :
    last? (x :: entries) f = (last? entries f).or (if x.1 = f then some x.2 else none) := by
  unfold last?
  by_cases hf : x.1 = f
  · rw [List.filter_cons_of_pos (by simpa using hf), List.getLast?_cons, if_pos hf]
    cases (entries.filter (·.1 == f)).getLast? <;> rfl
  · rw [List.filter_cons_of_neg (by simpa using hf), if_neg hf, Option.or_none]

theorem mem_of_last? {entries : List (FontField × α)} {f : FontField} {a : α}
    (h : last? entries f = some a) : (f, a) ∈ entries := by
  obtain ⟨⟨g, b⟩, hlast, rfl⟩ := Option.map_eq_some_iff.mp h
  obtain ⟨hmem, hg⟩ := List.mem_filter.mp (List.mem_of_getLast? hlast)
  obtain rfl : g = f := by simpa using hg
  exact hmem

/-- Of several values that are set for a field, the last one counts. -/
theorem setAll_apply (t : FontTable α) (entries : List (FontField × α)) (f : FontField) :
    t.setAll entries f = (last? entries f).or (t f) := by
  induction entries generalizing t with
  | nil => rfl
  | cons x entries ih =>
    have hset : t.set x.1 x.2 f = (if x.1 = f then some x.2 else none).or (t f) := by
      by_cases hf : x.1 = f
      · rw [if_pos hf, ← hf, set_self, Option.some_or]
      · rw [if_neg hf, set_of_ne _ _ (Ne.symm hf), Option.none_or]
    rw [setAll, List.foldl_cons, ← setAll, ih, last?_cons, Option.or_assoc, hset]

/-- Values that are set for different fields can be set in any order. -/
theorem setAll_congr {entries entries' : List (FontField × α)}
    (h : ∀ f, entries'.filter (·.1 == f) = entries.filter (·.1 == f)) (t : FontTable α) :
    t.setAll entries' = t.setAll entries := by
  funext f
  rw [setAll_apply, setAll_apply, last?, last?, h f]

end FontTable

/-! ### Fonts that are read -/

/-- The fields that the keys of a mapping name, with what stands under them. -/
def Document.fontEntries (pairs : List (Document × Document)) : List (FontField × Document) :=
  pairs.filterMap fun pair => (pair.1.string?.bind FontField.parse?).map (·, pair.2)

namespace Value

open FontTable (last?)

/-- What is read of a mapping: for each field what is read of its last spelling, and otherwise what
was there before. -/
theorem ofPairs_eq_ok {pairs : List (Document × Document)} {table : FontTable Value} {v : Value}
    (h : ofPairs pairs table = .ok v) : ∃ fields, v = font fields ∧ ∀ f,
      (fields f).map Except.ok =
        ((last? (Document.fontEntries pairs) f).map ofDocument).or ((table f).map Except.ok) := by
  induction pairs generalizing table with
  | nil =>
    rw [ofPairs] at h
    exact ⟨table, (Except.ok.inj h).symm, fun f => rfl⟩
  | cons pair pairs ih =>
    obtain ⟨key, value⟩ := pair
    have hall := (exists_ofPairs_iff _ table).mp ⟨v, h⟩
    rw [List.all_cons, Bool.and_eq_true, Document.isFontField, Bool.and_eq_true, isScalar_iff,
      Option.isSome_iff_exists] at hall
    obtain ⟨⟨⟨f₀, hfield⟩, v₀, hvalue, hfont⟩, -⟩ := hall
    obtain ⟨name, hname, hparse⟩ := Option.bind_eq_some_iff.mp hfield
    rw [ofPairs_cons hname hparse hvalue hfont] at h
    obtain ⟨fields, rfl, hfields⟩ := ih h
    refine ⟨fields, rfl, fun f => ?_⟩
    have hentries : Document.fontEntries ((key, value) :: pairs) =
        (f₀, value) :: Document.fontEntries pairs :=
      List.filterMap_cons_some (by rw [hfield]; rfl)
    rw [hfields f, hentries, FontTable.last?_cons]
    by_cases hf : f₀ = f
    · rw [hf, FontTable.set_self, Option.map_some, if_pos rfl, Option.map_or, Option.map_some,
        hvalue, Option.or_assoc, Option.some_or]
    · rw [FontTable.set_of_ne _ _ (Ne.symm hf), if_neg hf, Option.or_none]

/-- A font that is read holds in each field what is read of its last spelling, which is a single
value. -/
theorem fields_of_ofDocument {d : Document} {fields : FontTable Value}
    (h : ofDocument d = .ok (font fields)) : ∃ pairs, d.untagged = .mapping pairs ∧
      (∀ f, (fields f).map Except.ok = (last? (Document.fontEntries pairs) f).map ofDocument) ∧
      ∀ f v, fields f = some v → v.isFont = false := by
  rw [ofDocument_untagged] at h
  have huntagged := Document.untagged_ne_tagged d
  cases hd : d.untagged with
  | tagged tag value => exact absurd hd (huntagged value tag)
  | mapping pairs =>
    rw [hd, ofDocument] at h
    obtain ⟨fields', heq, hfields⟩ := ofPairs_eq_ok h
    obtain rfl := font.inj heq
    have hread (f : FontField) :
        (fields f).map Except.ok = (last? (Document.fontEntries pairs) f).map ofDocument := by
      simpa [FontTable.empty] using hfields f
    refine ⟨pairs, rfl, hread, fun f v hv => ?_⟩
    have hlast := hread f
    rw [hv, Option.map_some, eq_comm, Option.map_eq_some_iff] at hlast
    obtain ⟨value, hvalue, hok⟩ := hlast
    obtain ⟨pair, hpair, hentry⟩ := List.mem_filterMap.mp (FontTable.mem_of_last? hvalue)
    obtain ⟨g, -, hg⟩ := Option.map_eq_some_iff.mp hentry
    obtain ⟨-, rfl⟩ := Prod.mk.inj hg
    have hfield := List.all_eq_true.mp ((exists_ofPairs_iff pairs _).mp ⟨_, h⟩) pair hpair
    rw [Document.isFontField, Bool.and_eq_true, isScalar_iff] at hfield
    obtain ⟨-, v', hv', hfont⟩ := hfield
    rw [hok] at hv'
    rwa [Except.ok.inj hv']
  | _ => simp [hd, ofDocument] at h

end Value

/-! ### Values that are written and read back -/

namespace Value

/-- Whether a value is a single one or a font of single values. -/
def isFlat : Value → Bool
  | font fields => FontField.all.all fun f => (fields f).all fun v => !v.isFont
  | _ => true

theorem ofDocument_toDocument_of_not_isFont {v : Value} (h : v.isFont = false) :
    ofDocument v.toDocument = .ok v := by
  cases v with
  | font fields => exact absurd h (by simp [isFont])
  | _ => rfl

theorem ofPairs_map {entries : List (FontField × Value)}
    (h : ∀ x ∈ entries, x.2.isFont = false) (table : FontTable Value) :
    ofPairs (entries.map fun x => (.string x.1.name, x.2.toDocument)) table =
      .ok (font (table.setAll entries)) := by
  induction entries generalizing table with
  | nil => rfl
  | cons x entries ih =>
    have hx := h x (by simp)
    rw [List.map_cons, ofPairs_cons rfl (FontField.parse?_name x.1)
      (ofDocument_toDocument_of_not_isFont hx) hx, ih fun y hy => h y (by simp [hy])]
    rfl

theorem toDocument_font (fields : FontTable Value) :
    (font fields).toDocument =
      .mapping (fields.toList.map fun x => (.string x.1.name, x.2.toDocument)) := by
  have hpairs (f : FontField) : toPairs f (fields f) =
      (((fields f).map (f, ·)).map fun x => (Document.string x.1.name, x.2.toDocument)).toList := by
    cases fields f <;> rfl
  rw [toDocument, FontTable.toList, List.map_filterMap, List.filterMap_eq_flatMap_toList]
  simp only [hpairs]

/-- A flat value is read back as it was written. -/
theorem ofDocument_toDocument {v : Value} (h : v.isFlat = true) :
    ofDocument v.toDocument = .ok v := by
  cases v with
  | font fields =>
    have hsingle : ∀ x ∈ FontTable.toList fields, x.2.isFont = false := by
      rintro ⟨f, v⟩ hx
      rw [isFlat, List.all_eq_true] at h
      have hf := h f (FontField.mem_all f)
      rw [FontTable.mem_toList.mp hx] at hf
      simpa using hf
    rw [toDocument_font, ofDocument, ofPairs_map hsingle, FontTable.setAll_toList]
  | _ => rfl

/-- **Which documents are option values, what they are, and how values are written.**  A document is
an option value just when it is a scalar or a mapping from font fields to scalars.  A font that is
read has single values only, each from the last spelling of its field.  A font is written under the
names of its fields in canonical order, and every flat value is read back as it was written. -/
theorem ofDocument_described :
    (∀ d, (∃ v, ofDocument d = .ok v) ↔ d.isOptionValue = true) ∧
    (∀ d fields, ofDocument d = .ok (font fields) → ∃ pairs, d.untagged = .mapping pairs ∧
      (∀ f, (fields f).map Except.ok =
        (FontTable.last? (Document.fontEntries pairs) f).map ofDocument) ∧
      ∀ f v, fields f = some v → v.isFont = false) ∧
    (∀ fields : FontTable Value, (font fields).toDocument =
      .mapping (fields.toList.map fun x => (.string x.1.name, x.2.toDocument))) ∧
    ∀ v : Value, v.isFlat = true → ofDocument v.toDocument = .ok v :=
  ⟨exists_ofDocument_iff, fun _ _ => fields_of_ofDocument, toDocument_font,
    fun _ => ofDocument_toDocument⟩

end Value

namespace Sample

/-- A font under a tag, whose size stands there in two spellings. -/
def twiceSized : Document :=
  .tagged "font" (.mapping
    [(.string " Font_Size", .string "20"), (.tagged "name" (.string "text-align"), .null),
      (.string "font-size", .tagged "length" (.number (.int 17)))])

/-- A font with a size only. -/
def seventeen : Value := .font (FontTable.empty.set .fontSize (.number 17))

end Sample

/-- The size is that of the second spelling, and a font with a size is written and read back. -/
theorem Value.ofDocument_described_twiceSized :
    Sample.twiceSized.isOptionValue = true ∧
    (∃ fields, Value.ofDocument Sample.twiceSized = .ok (.font fields) ∧
      fields .fontSize = some (.number (Number.int 17).toFloat)) ∧
    Sample.seventeen.isFlat = true ∧
    Value.ofDocument Sample.seventeen.toDocument = .ok Sample.seventeen := by
  obtain ⟨hread, hfields, -, hback⟩ := Value.ofDocument_described
  have hvalue : Sample.twiceSized.isOptionValue = true := by decide +kernel
  have hflat : Sample.seventeen.isFlat = true := by decide
  have hfirst : FontField.parse? " Font_Size" = some .fontSize := by decide +kernel
  have halign : FontField.parse? "text-align" = some .textAlign := by decide +kernel
  have hsecond : FontField.parse? "font-size" = some .fontSize := by decide +kernel
  obtain ⟨v, hv⟩ := (hread Sample.twiceSized).mpr hvalue
  obtain ⟨fields, rfl⟩ := exists_eq_font (isFont_of_ofPairs hv)
  obtain ⟨pairs, hpairs, hlast, -⟩ := hfields _ _ hv
  obtain rfl := Document.mapping.inj hpairs
  have hsize : fields .fontSize = some (.number (Number.int 17).toFloat) := by
    simpa [Document.fontEntries, Document.string?, Document.untagged, hfirst, halign, hsecond,
      FontTable.last?, Value.ofDocument] using hlast .fontSize
  exact ⟨hvalue, ⟨fields, hv, hsize⟩, hflat, hback _ hflat⟩

end ThemeOptions
