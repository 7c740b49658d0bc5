import ThemeOptions.Contribution.Writing
import ThemeOptions.Contribution.Reading
import ThemeOptions.Proofs.Offences
import ThemeOptions.Proofs.SelectorEnds
import ThemeOptions.Proofs.WholeNumbers

/-!
# Contributions that are written and read back

What is written of a contribution under the main keys is read back as that same contribution, with
every list in its order.  Four things about it are not said by any document, or are said by it
otherwise: who registered a section, a kind that no name stands for, a font in a font, and a unit
that is empty.

The proof follows the records from the inside out.  For each of them, every key is looked up in what
was written, and what stands there is read as what it was written from.
-/

namespace ThemeOptions

/-! ### Looking up what is written -/

namespace Document

@[simp] theorem lookup_written (key name : String) (d : Option Document) :
    lookup (written key d) name = if key == name then d else none := by
  cases d with
  | none => simp [written, lookup]
  | some d => simp [written, lookup]

@[simp] theorem bind_number?_map_numberDocument (o : Option Float) :
    (o.map numberDocument).bind number? = o := by
  cases o <;> rfl

@[simp] theorem bind_text?_map_string (o : Option String) : (o.map string).bind text? = o := by
  cases o <;> rfl

end Document

/-- A list is read back from what is written of its items if each item is. -/
theorem mapM_map_eq_ok {α β γ ε : Type} {write : α → β} {read : β → Except ε γ} {f : α → γ}
    {l : List α} (h : ∀ a ∈ l, read (write a) = .ok (f a)) :
    (l.map write).mapM read = .ok (l.map f) := by
  induction l with
  | nil => rfl
  | cons a l ih =>
    rw [List.map_cons, List.mapM_cons, h a (by simp), ih fun b hb => h b (by simp [hb])]
    rfl

/-! ### Kinds -/

namespace Text

theorem toNat_toLower (c : Char) :
    c.toLower.toNat = if 65 ≤ c.toNat ∧ c.toNat ≤ 90 then c.toNat + 32 else c.toNat := by
  unfold Char.toLower
  split
  · rename_i h
    have hcapital : 65 ≤ c.toNat ∧ c.toNat ≤ 90 := h
    have hle : c.val.toNat ≤ 90 := hcapital.2
    rw [if_pos hcapital]
    show (c.val + 32).toNat = c.val.toNat + 32
    rw [UInt32.toNat_add]
    show (c.val.toNat + 32) % 2 ^ 32 = c.val.toNat + 32
    omega
  · rename_i h
    have hother : ¬(65 ≤ c.toNat ∧ c.toNat ≤ 90) := h
    rw [if_neg hother]

theorem toLower_toLower (c : Char) : c.toLower.toLower = c.toLower := by
  apply Char.toNat_inj.mp
  have hsmall : ¬(65 ≤ c.toLower.toNat ∧ c.toLower.toNat ≤ 90) := by
    rw [toNat_toLower]
    split <;> omega
  rw [toNat_toLower c.toLower, if_neg hsmall]

/-- No blank is a capital or a small letter. -/
theorem isBlank_toLower (c : Char) : isBlank c.toLower = isBlank c := by
  simp only [isBlank, toNat_toLower]
  split
  · rw [Bool.eq_iff_iff]
    simp only [Bool.or_eq_true, Bool.and_eq_true, decide_eq_true_eq, beq_iff_eq]
    omega
  · rfl

theorem lower_lower (s : String) : lower (lower s) = lower s := by
  simp only [lower, String.toList_ofList, List.map_map, Function.comp_def, toLower_toLower]

theorem trim_lower (s : String) : trim (lower s) = lower (trim s) := by
  have hblank : isBlank ∘ Char.toLower = isBlank := funext isBlank_toLower
  simp only [trim, lower, trimChars, String.toList_ofList, List.dropWhile_map, hblank,
    ← List.map_reverse]

end Text

namespace Kind

theorem name_parse (s : String) : (parse s).name = Text.lower (Text.trim s) := by
  unfold parse
  split <;> simp_all [name]

theorem parse_congr {s t : String} (h : Text.lower (Text.trim s) = Text.lower (Text.trim t)) :
    parse s = parse t := by
  unfold parse
  rw [h]

/-- A kind that some name stands for is the one that its own name stands for. -/
theorem parse_name_parse (s : String) : parse (parse s).name = parse s := by
  apply parse_congr
  rw [name_parse, Text.trim_lower, Text.lower_lower, Text.trim_trim]

end Kind

/-! ### The parts of an option -/

open Document (lookup lookupAny textUnder numberUnder unitUnder)

theorem Bounds.ofDocument?_toDocument (b : Bounds) : Bounds.ofDocument? b.toDocument = some b := by
  rfl

/-- A unit that is not empty is kept. -/
theorem filter_unit {unit : Option String} (h : unit ≠ some "") :
    unit.filter (fun u => u != "") = unit := by
  cases unit with
  | none => rfl
  | some u =>
    have hu : (u != "") = true := by simpa using h
    rw [Option.filter_some, if_pos hu]

theorem Rule.ofPairs_toDocument {r : Rule} {pairs : List (Document × Document)}
    (h : r.toDocument = .mapping pairs) (hunit : r.unit ≠ some "") : Rule.ofPairs pairs = r := by
  obtain rfl := Document.mapping.inj h
  simp [Rule.ofPairs, textUnder, unitUnder, lookup, Document.text?, filter_unit hunit]

theorem FontFieldSpec.ofDocument_toDocument {s : FontFieldSpec} (hunit : s.unit ≠ some "") :
    FontFieldSpec.ofDocument s.toDocument = s := by
  simp [FontFieldSpec.ofDocument, FontFieldSpec.toDocument, textUnder, numberUnder, unitUnder,
    lookup, Document.flag, filter_unit hunit]

theorem rulesOfDocument_map {rules : List Rule} (h : ∀ r ∈ rules, r.unit ≠ some "") :
    rulesOfDocument (.sequence (rules.map Rule.toDocument)) = .ok rules := by
  show List.mapM _ (rules.map Rule.toDocument).zipIdx = _
  rw [List.zipIdx_map, mapM_map_eq_ok (f := Prod.fst), List.zipIdx_map_fst]
  rintro ⟨r, index⟩ hr
  have hmem : r ∈ rules := List.fst_mem_of_mem_zipIdx hr
  show Except.ok (Rule.ofPairs _) = Except.ok r
  rw [Rule.ofPairs_toDocument rfl (h r hmem)]

/-- The choices of a mapping as it is written. -/
theorem choicesOfDocument_map (choices : List (String × String)) :
    choicesOfDocument (.mapping (choices.map fun c => (.string c.1, .string c.2))) = choices := by
  rw [choicesOfDocument, List.filterMap_map]
  exact List.filterMap_some

theorem filterMap_text?_map (items : List String) :
    (items.map Document.string).filterMap Document.text? = items := by
  rw [List.filterMap_map]
  exact List.filterMap_some

theorem fontFieldsOfPairs_map {fields : List (FontField × FontFieldSpec)}
    (h : ∀ x ∈ fields, x.2.unit ≠ some "") :
    fontFieldsOfPairs (fields.map fun x => (.string x.1.name, x.2.toDocument)) =
      FontTable.empty.setAll fields := by
  unfold fontFieldsOfPairs FontTable.setAll
  generalize (FontTable.empty : FontTable FontFieldSpec) = table
  induction fields generalizing table with
  | nil => rfl
  | cons x fields ih =>
    have hkey : (Document.string x.1.name).keyText?.bind FontField.parse? = some x.1 := by
      rw [Document.keyText?, Option.bind_some, FontField.parse?_name]
    simp only [List.map_cons, List.foldl_cons, hkey,
      FontFieldSpec.ofDocument_toDocument (h x (by simp))]
    exact ih (fun y hy => h y (by simp [hy])) _

/-! ### Options -/

/-- What an option must be like for a document to say all of it: its kind has a name, its default
holds no font in a font, what it says of font fields says something, and none of its units is
empty. -/
structure Entry.Writable (e : Entry) : Prop where
  kind : ∀ k ∈ e.kind, ∃ name, k = Kind.parse name
  default : ∀ v ∈ e.default, v.isFlat = true
  ruleUnits : ∀ r ∈ e.rules, r.unit ≠ some ""
  fields : ∀ table ∈ e.fieldSpecs, table.isEmpty = false
  fieldUnits : ∀ f spec, e.fontFields f = some spec → spec.unit ≠ some ""

/-- A part that is left out when it is empty is read back from what is written of it. -/
theorem readUnder_listed {α β : Type} {pairs : List (Document × Document)} {names : List String}
    {build : List α → Document} {read : Document → Except OptionOffence β} {items : List α}
    (result : List α → β) (hlookup : lookupAny pairs names = listed build items)
    (hread : read (build items) = .ok (result items)) :
    readUnder pairs names (result []) read = .ok (result items) := by
  rw [readUnder, hlookup]
  cases items with
  | nil => rfl
  | cons a items => exact hread

attribute [ext] Entry

namespace Entry

variable {e : Entry}

theorem readUnder_default (h : e.Writable) :
    readUnder e.toDocument.members ["default"] none readDefault = .ok e.default := by
  have hlookup : lookupAny e.toDocument.members ["default"] = e.default.map Value.toDocument := by
    simp [Document.members, toDocument]
  rw [readUnder, hlookup]
  cases hd : e.default with
  | none => rfl
  | some v =>
    rw [Option.map_some]
    simp only [readDefault, Value.ofDocument_toDocument (h.default v hd)]

theorem readUnder_rules (h : e.Writable) :
    readUnder e.toDocument.members ["css"] [] rulesOfDocument = .ok e.rules := by
  have hlookup : lookupAny e.toDocument.members ["css"] =
      listed (fun rs => .sequence (rs.map Rule.toDocument)) e.rules := by
    simp [Document.members, toDocument]
  exact readUnder_listed (fun rules => rules) hlookup (rulesOfDocument_map h.ruleUnits)

theorem readUnder_fontFields (h : e.Writable) :
    readUnder e.toDocument.members ["fields", "sub_fields"] FontTable.empty readFontFields =
      .ok e.fontFields := by
  have hlookup : lookupAny e.toDocument.members ["fields", "sub_fields"] = listed (fun fs =>
      .mapping (fs.map fun f => (.string f.1.name, f.2.toDocument))) e.fontFields.toList := by
    simp [Document.members, toDocument]
  have hunits : ∀ x ∈ e.fontFields.toList, x.2.unit ≠ some "" := fun x hx =>
    h.fieldUnits x.1 x.2 (FontTable.mem_toList.mp hx)
  have hread : readFontFields (.mapping (e.fontFields.toList.map fun f =>
      (.string f.1.name, f.2.toDocument))) = .ok (FontTable.empty.setAll e.fontFields.toList) := by
    simp only [readFontFields, Document.pairs?, Document.untagged, fontFieldsOfPairs_map hunits]
  have hfields := readUnder_listed FontTable.empty.setAll hlookup hread
  rwa [FontTable.setAll_toList] at hfields

theorem fieldSpecs_of_fontFields (h : e.Writable) :
    (if e.fontFields.isEmpty then none else some e.fontFields) = e.fieldSpecs := by
  unfold fontFields
  cases htable : e.fieldSpecs with
  | none => rfl
  | some table => simp [h.fields table htable]

theorem parse_textUnder (h : e.Writable) :
    (textUnder e.toDocument.members ["type", "kind"]).map Kind.parse = e.kind := by
  have hlookup : lookupAny e.toDocument.members ["type", "kind"] =
      e.kind.map fun k => .string k.name := by
    simp [Document.members, toDocument]
  rw [textUnder, hlookup]
  cases hk : e.kind with
  | none => rfl
  | some k =>
    obtain ⟨name, hname⟩ := h.kind k hk
    simp only [Option.map_some, Option.bind_some, Document.text?]
    rw [hname, Kind.parse_name_parse]

theorem choicesOfDocument_lookup (e : Entry) :
    ((lookup e.toDocument.members "choices").map choicesOfDocument).getD [] = e.choices.toList := by
  have hlookup : lookup e.toDocument.members "choices" = listed (fun cs =>
      .mapping (cs.map fun c => (.string c.1, .string c.2))) e.choices.toList := by
    simp [Document.members, toDocument]
  rw [hlookup]
  cases e.choices.toList with
  | nil => rfl
  | cons c cs => exact choicesOfDocument_map (c :: cs)

theorem bounds_lookupAny (e : Entry) :
    (lookupAny e.toDocument.members ["input_attrs", "input_constraints"]).bind Bounds.ofDocument? =
      e.bounds := by
  have hlookup : lookupAny e.toDocument.members ["input_attrs", "input_constraints"] =
      e.bounds.map Bounds.toDocument := by
    simp [Document.members, toDocument]
  rw [hlookup]
  cases e.bounds with
  | none => rfl
  | some b => exact Bounds.ofDocument?_toDocument b

theorem ofPairs_toDocument (h : e.Writable) : Entry.ofPairs e.id e.toDocument.members = .ok e := by
  rw [ofPairs, readUnder_default h, readUnder_rules h, readUnder_fontFields h]
  show Except.ok _ = Except.ok e
  apply congrArg Except.ok
  ext1 <;> dsimp only
  case kind => rw [parse_textUnder h]
  case choices => rw [choicesOfDocument_lookup, Keyed.ofList_toList]
  case bounds => rw [bounds_lookupAny]
  case fieldSpecs => exact fieldSpecs_of_fontFields h
  case recommended =>
    have hlookup : lookup e.toDocument.members "recommended" =
        listed (fun items => .sequence (items.map .string)) e.recommended := by
      simp [Document.members, toDocument]
    rw [hlookup]
    cases e.recommended with
    | nil => rfl
    | cons item items => exact filterMap_text?_map (item :: items)
  all_goals simp [textUnder, Document.members, toDocument, Document.text?, Document.flag]

theorem ofPair_toDocument (h : e.Writable) (sectionId : String) :
    Entry.ofPair sectionId (.string e.id, e.toDocument) = .ok e := by
  have hpairs : e.toDocument.pairs? = some e.toDocument.members := rfl
  simp only [ofPair, Document.keyText?, hpairs, ofPairs_toDocument h]
  rfl

end Entry

/-! ### Sections and contributions -/

/-- What a section must be like for a document to say all of it: nobody has registered it, and all
of its options can be written. -/
structure Section.Writable (s : Section) : Prop where
  unregistered : s.origin = none
  options : ∀ e ∈ s.options.toList, e.Writable

attribute [ext] Section

namespace Section

variable {s : Section}

theorem optionsOfDocument_lookup (h : s.Writable) :
    optionsOfDocument s.id ((lookup s.toDocument.members "options").getD .null) =
      .ok s.options.toList := by
  have hlookup : lookup s.toDocument.members "options" = listed (fun es =>
      .mapping (es.map fun e => (.string e.id, e.toDocument))) s.options.toList := by
    simp [Document.members, toDocument]
  have hread : (s.options.toList.map fun e => (Document.string e.id, e.toDocument)).mapM
      (Entry.ofPair s.id) = .ok (s.options.toList.map fun e => e) :=
    mapM_map_eq_ok fun e he => Entry.ofPair_toDocument (h.options e he) s.id
  rw [List.map_id'] at hread
  rw [hlookup]
  cases hes : s.options.toList with
  | nil => rfl
  | cons e es =>
    rw [hes] at hread
    exact hread

theorem ofPairs_toDocument (h : s.Writable) :
    Section.ofPairs s.id s.toDocument.members = .ok s := by
  rw [ofPairs, optionsOfDocument_lookup h]
  show Except.ok _ = Except.ok s
  apply congrArg Except.ok
  ext1 <;> dsimp only
  case options => rw [Keyed.ofList_toList]
  case origin => rw [h.unregistered]
  case priority =>
    have hlookup : lookup s.toDocument.members "priority" =
        some (.number (.int s.priority.toInt)) := by
      simp [Document.members, toDocument]
    rw [hlookup]
    exact Decimal.toInt32_ofInt s.priority
  all_goals simp [textUnder, Document.members, toDocument]

theorem ofPair_toDocument (h : s.Writable) :
    Section.ofPair (.string s.id, s.toDocument) = .ok s := by
  have hpairs : s.toDocument.pairs? = some s.toDocument.members := rfl
  simp only [ofPair, Document.keyText?, hpairs, ofPairs_toDocument h]

end Section

/-- What a contribution must be like for a document to say all of it. -/
def Contribution.Writable (c : Contribution) : Prop :=
  ∀ s ∈ c.sections.toList, s.Writable

/-- **What is written of a contribution is read back as that contribution.** -/
theorem Contribution.ofDocument_written {c : Contribution} (h : c.Writable) :
    Contribution.ofDocument c.toDocument = .ok c := by
  have hread : (c.sections.toList.map fun s => (Document.string s.id, s.toDocument)).mapM
      Section.ofPair = .ok (c.sections.toList.map fun s => s) :=
    mapM_map_eq_ok fun s hs => Section.ofPair_toDocument (h s hs)
  rw [toDocument, ofDocument, hread, List.map_id', Except.map, Keyed.ofList_toList]

namespace Sample

/-- The width of a frame, which says all that a slider can say. -/
def frameWidth : Entry where
  id := "1"
  kind := some .range
  label := " Width "
  default := some (.number 1.5)
  choices := Keyed.ofList [("2", "thin"), ("1", "")]
  bounds := some ⟨0, 10, 0.5⟩
  rules := [⟨"width", ".frame, .card", some "px", none⟩, ⟨"", "", none, some "auto_contrast"⟩]
  live := true
  activeWhen := some "is_framed"

/-- The font of a caption, which says all that a font can say. -/
def captionFont : Entry where
  id := "caption"
  kind := some .font
  default := some (.font ((FontTable.empty.set .fontSize (.number 20)).set .fontFamily .unset))
  selector := some "figcaption"
  fieldSpecs := some (FontTable.empty.set .fontSize ⟨true, some 8, some 72, none, some "px"⟩)
  recommended := ["Lora", "Inter", "Lora"]
  html := some "<b>Caption</b>"

def frames : Contribution where
  sections := Keyed.ofList
    [{ id := "frames", title := some "", priority := -7, panel := some "looks"
       options := Keyed.ofList [frameWidth, captionFont] },
     { id := "2" }]

theorem writable_frameWidth : frameWidth.Writable where
  kind k hk := ⟨"range", by obtain rfl := Option.some.inj hk; decide +kernel⟩
  default v hv := by obtain rfl := Option.some.inj hv; rfl
  ruleUnits := by decide
  fields table htable := nomatch htable
  fieldUnits f spec hspec := nomatch hspec

theorem writable_captionFont : captionFont.Writable where
  kind k hk := ⟨"font", by obtain rfl := Option.some.inj hk; decide +kernel⟩
  default v hv := by obtain rfl := Option.some.inj hv; decide
  ruleUnits := by decide
  fields table htable := by obtain rfl := Option.some.inj htable; decide +kernel
  fieldUnits f spec hspec := by
    by_cases hf : f = .fontSize
    · subst hf
      obtain rfl := Option.some.inj hspec
      decide
    · simp [captionFont, Entry.fontFields, FontTable.set, FontTable.empty, hf] at hspec

end Sample

/-- Two sections, of which the first has two options, are read back as they were written. -/
theorem ofDocument_written_frames : Sample.frames.Writable ∧
    Contribution.ofDocument Sample.frames.toDocument = .ok Sample.frames := by
  have hwritable : Sample.frames.Writable := by
    intro s hs
    rcases List.mem_cons.mp hs with rfl | hs
    · refine ⟨rfl, fun e he => ?_⟩
      rcases List.mem_cons.mp he with rfl | he
      · exact Sample.writable_frameWidth
      · obtain rfl := List.mem_singleton.mp he
        exact Sample.writable_captionFont
    · obtain rfl := List.mem_singleton.mp hs
      exact ⟨rfl, fun e he => nomatch he⟩
  exact ⟨hwritable, Contribution.ofDocument_written hwritable⟩

end ThemeOptions
