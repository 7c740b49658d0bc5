import Mathlib.Data.List.Nodup
import Mathlib.Data.List.Pairwise
import Mathlib.Logic.Relation
import ThemeOptions.Contribution.Reading

/-!
# Contribution documents that are worded otherwise

Sections, options, rules, limits and font fields are mappings with fixed keys.  They are read by
looking up these keys, so nothing depends on the order of the keys, on which of two spellings a key
has, or on what stands under other keys.  `Vocabulary.Rewords` is one such change of a mapping, and
`Document.Rewords` one somewhere in a contribution document.

`Contribution.ofDocument_eq_of_eqvGen` says that no number of such changes makes a difference, to
what is read or to the offence that is reported.  The proof follows the document from the inside
out: a change of a value that is read alike leaves everything that is looked up alike
(`ChangedAt.map_lookupAny`).
-/

open scoped List

namespace ThemeOptions

open Document (lookup lookupAny textUnder numberUnder unitUnder)

/-- Keys with their values in order. -/
abbrev Pairs := List (Document × Document)

/-! ### Mappings with fixed keys -/

/-- The keys of a kind of mapping, each with its spellings.  No spelling stands for two keys. -/
structure Vocabulary where
  keys : List (List String)
  nodup : keys.flatten.Nodup := by decide

namespace Vocabulary

def ofSection : Vocabulary where
  keys := [["title"], ["description", "desc"], ["panel"], ["priority"], ["options"]]

def ofOption : Vocabulary where
  keys :=
    [["type", "kind"], ["label"], ["desc", "description"], ["live"], ["selector"], ["html"],
      ["active_callback", "active_when"], ["default"], ["choices"], ["recommended"],
      ["input_attrs", "input_constraints"], ["css"], ["fields", "sub_fields"]]

def ofRule : Vocabulary where
  keys := [["property"], ["selector"], ["unit"], ["callback_filter", "callback"]]

def ofBounds : Vocabulary where
  keys := [["min"], ["max"], ["step"]]

def ofFontField : Vocabulary where
  keys := [["enabled"], ["min"], ["max"], ["step"], ["unit"]]

end Vocabulary

/-- The keys that are texts, without a tag. -/
def textKeys (pairs : Pairs) : List String :=
  pairs.filterMap fun pair =>
    match pair.1 with
    | .string name => some name
    | _ => none

/-- One change of a mapping that says the same: its keys in another order, one more pair under a key
that is not in the vocabulary, or another spelling of a key of which no spelling is there besides.
A document has a key once, which is asked of the keys that are put in another order. -/
inductive Vocabulary.Rewords (v : Vocabulary) : Pairs → Pairs → Prop
  | reorder {ps qs : Pairs} (hkeys : (textKeys ps).Nodup) (hperm : ps ~ qs) : Rewords v ps qs
  | extend (ps qs : Pairs) {key : Document} (d : Document)
      (hkey : ∀ name ∈ v.keys.flatten, key ≠ .string name) :
      Rewords v (ps ++ qs) (ps ++ (key, d) :: qs)
  | respell (ps qs : Pairs) (d : Document) (key : List String) (name name' : String)
      (hkey : key ∈ v.keys) (hname : name ∈ key) (hname' : name' ∈ key)
      (hother : ∀ other ∈ key, lookup (ps ++ qs) other = none) :
      Rewords v (ps ++ (.string name, d) :: qs) (ps ++ (.string name', d) :: qs)

/-! ### What is looked up -/

namespace Document

theorem lookup_cons_self (name : String) (d : Document) (ps : Pairs) :
    lookup ((.string name, d) :: ps) name = some d := by
  rw [lookup, if_pos (by simp)]

theorem lookup_cons_of_ne {key : Document} {name : String} (h : key ≠ .string name) (d : Document)
    (ps : Pairs) : lookup ((key, d) :: ps) name = lookup ps name := by
  cases key with
  | string other =>
    have hne : other ≠ name := fun e => h (congrArg string e)
    rw [lookup, if_neg (by simpa using hne)]
  | _ => rfl

/-- A pair under another key can be left out. -/
theorem lookup_insert_of_ne {key : Document} {name : String} (h : key ≠ .string name)
    (d : Document) (ps qs : Pairs) :
    lookup (ps ++ (key, d) :: qs) name = lookup (ps ++ qs) name := by
  rw [lookup_append, lookup_append, lookup_cons_of_ne h]

theorem lookup_insert_self {name : String} {ps qs : Pairs} (h : lookup (ps ++ qs) name = none)
    (d : Document) : lookup (ps ++ (.string name, d) :: qs) name = some d := by
  rw [lookup_append, Option.or_eq_none_iff] at h
  rw [lookup_append, h.1, lookup_cons_self, Option.none_or]

/-- A key that has one spelling only is found under it. -/
theorem lookupAny_insert_self {key : List String} {name : String} {ps qs : Pairs}
    (hname : name ∈ key) (h : ∀ other ∈ key, lookup (ps ++ qs) other = none) (d : Document) :
    lookupAny (ps ++ (.string name, d) :: qs) key = some d := by
  induction key with
  | nil => cases hname
  | cons first key ih =>
    obtain ⟨hfirst, hrest⟩ := List.forall_mem_cons.mp h
    rw [lookupAny_cons]
    by_cases hsame : name = first
    · subst hsame
      rw [lookup_insert_self hfirst, Option.some_or]
    · have hmem : name ∈ key := (List.mem_cons.mp hname).resolve_left hsame
      have hne : Document.string name ≠ .string first := fun e => hsame (string.inj e)
      rw [lookup_insert_of_ne hne, hfirst, Option.none_or, ih hmem hrest]

theorem lookupAny_congr {ps qs : Pairs} {names : List String}
    (h : ∀ name ∈ names, lookup qs name = lookup ps name) :
    lookupAny qs names = lookupAny ps names := by
  induction names with
  | nil => rfl
  | cons name names ih =>
    obtain ⟨hname, hrest⟩ := List.forall_mem_cons.mp h
    rw [lookupAny_cons, lookupAny_cons, hname, ih hrest]

theorem nodup_textKeys_of_cons {pair : Document × Document} {ps : Pairs}
    (h : (textKeys (pair :: ps)).Nodup) : (textKeys ps).Nodup :=
  h.sublist ((List.sublist_cons_self pair ps).filterMap _)

/-- Where a key stands does not matter, as long as it stands there once. -/
theorem lookup_perm {ps qs : Pairs} (hperm : ps ~ qs) (hkeys : (textKeys ps).Nodup)
    (name : String) : lookup qs name = lookup ps name := by
  induction hperm with
  | nil => rfl
  | @cons pair ps qs hperm ih =>
    obtain ⟨key, d⟩ := pair
    have hrest := ih (nodup_textKeys_of_cons hkeys)
    by_cases h : key = .string name
    · rw [h, lookup_cons_self, lookup_cons_self]
    · rw [lookup_cons_of_ne h, lookup_cons_of_ne h, hrest]
  | swap pair pair' ps =>
    obtain ⟨key, d⟩ := pair
    obtain ⟨key', d'⟩ := pair'
    by_cases h : key = .string name
    · have h' : key' ≠ .string name := by
        rintro rfl
        subst h
        exact (List.nodup_cons.mp hkeys).1 List.mem_cons_self
      rw [h, lookup_cons_self, lookup_cons_of_ne h', lookup_cons_self]
    · by_cases h' : key' = .string name
      · rw [h', lookup_cons_of_ne h, lookup_cons_self, lookup_cons_self]
      · rw [lookup_cons_of_ne h, lookup_cons_of_ne h', lookup_cons_of_ne h', lookup_cons_of_ne h]
  | trans hfirst hsecond ih ih' =>
    have hmiddle := (hfirst.filterMap _).nodup_iff.mp hkeys
    exact (ih' hmiddle).trans (ih hkeys)

end Document

/-- A spelling belongs to one key. -/
theorem Vocabulary.eq_of_mem {v : Vocabulary} {key key' : List String} {name : String}
    (hkey : key ∈ v.keys) (hkey' : key' ∈ v.keys) (hname : name ∈ key) (hname' : name ∈ key') :
    key = key' := by
  by_contra hne
  have hsymm : Std.Symm (@List.Disjoint String) := ⟨fun _ _ h _ hmem hmem' => h hmem' hmem⟩
  have hdisjoint := (List.nodup_flatten.mp v.nodup).2.forall hkey hkey' hne
  exact hdisjoint hname hname'

/-- A mapping that is worded otherwise says the same under every key. -/
theorem Vocabulary.Rewords.lookupAny_eq {v : Vocabulary} {ps qs : Pairs} (h : v.Rewords ps qs)
    (key : List String) (hkey : key ∈ v.keys) : lookupAny qs key = lookupAny ps key := by
  cases h with
  | reorder hkeys hperm =>
    exact Document.lookupAny_congr fun name _ => Document.lookup_perm hperm hkeys name
  | extend ps qs d hother =>
    refine Document.lookupAny_congr fun name hname => ?_
    exact Document.lookup_insert_of_ne (hother name (List.mem_flatten_of_mem hkey hname)) d ps qs
  | respell ps qs d key' name name' hkey' hname hname' hother =>
    by_cases hsame : key = key'
    · subst hsame
      rw [Document.lookupAny_insert_self hname hother, Document.lookupAny_insert_self hname' hother]
    · have hne (spelling : String) (hspelling : spelling ∈ key') (other : String)
          (hmem : other ∈ key) : Document.string spelling ≠ .string other := by
        rintro ⟨rfl⟩
        exact hsame (v.eq_of_mem hkey hkey' hmem hspelling)
      refine Document.lookupAny_congr fun other hmem => ?_
      rw [Document.lookup_insert_of_ne (hne name hname other hmem),
        Document.lookup_insert_of_ne (hne name' hname' other hmem)]

/-! ### Changes inside a document -/

/-- The value of one key is another. -/
inductive ChangedAt (key : Document) (r : Document → Document → Prop) : Pairs → Pairs → Prop
  | intro (ps qs : Pairs) {d d' : Document} (h : r d d') :
      ChangedAt key r (ps ++ (key, d) :: qs) (ps ++ (key, d') :: qs)

/-- Two mappings under the same tags. -/
inductive Document.BothMappings (r : Pairs → Pairs → Prop) : Document → Document → Prop
  | mapping {ps qs : Pairs} (h : r ps qs) : BothMappings r (.mapping ps) (.mapping qs)
  | tagged (tag : String) {d d' : Document} (h : BothMappings r d d') :
      BothMappings r (.tagged tag d) (.tagged tag d')

/-- One rule of an option is worded otherwise.  A single rule may stand without the list. -/
inductive Document.RewordsRules : Document → Document → Prop
  | single {ps qs : Pairs} (h : Vocabulary.ofRule.Rewords ps qs) :
      RewordsRules (.mapping ps) (.mapping qs)
  | item (before after : List Document) {d d' : Document}
      (h : d.BothMappings Vocabulary.ofRule.Rewords d') :
      RewordsRules (.sequence (before ++ d :: after)) (.sequence (before ++ d' :: after))
  | tagged (tag : String) {d d' : Document} (h : RewordsRules d d') :
      RewordsRules (.tagged tag d) (.tagged tag d')

/-- An option is worded otherwise: its own keys, its limits, one of its rules or one of its font
fields. -/
inductive RewordsOption : Pairs → Pairs → Prop
  | keys {ps qs : Pairs} (h : Vocabulary.ofOption.Rewords ps qs) : RewordsOption ps qs
  | bounds {ps qs : Pairs} {name : String} (hname : name ∈ ["input_attrs", "input_constraints"])
      (h : ChangedAt (.string name) (Document.BothMappings Vocabulary.ofBounds.Rewords) ps qs) :
      RewordsOption ps qs
  | rules {ps qs : Pairs} (h : ChangedAt (.string "css") Document.RewordsRules ps qs) :
      RewordsOption ps qs
  | fontField {ps qs : Pairs} {name : String} {field : Document}
      (hname : name ∈ ["fields", "sub_fields"])
      (h : ChangedAt (.string name) (Document.BothMappings (ChangedAt field
        (Document.BothMappings Vocabulary.ofFontField.Rewords))) ps qs) :
      RewordsOption ps qs

/-- A section is worded otherwise: its own keys or one of its options. -/
inductive RewordsSection : Pairs → Pairs → Prop
  | keys {ps qs : Pairs} (h : Vocabulary.ofSection.Rewords ps qs) : RewordsSection ps qs
  | option {ps qs : Pairs} {id : Document}
      (h : ChangedAt (.string "options") (Document.BothMappings (ChangedAt id
        (Document.BothMappings RewordsOption))) ps qs) :
      RewordsSection ps qs

/-- One section of a contribution document is worded otherwise. -/
def Document.Rewords (d d' : Document) : Prop :=
  ∃ id, d.BothMappings (ChangedAt id (Document.BothMappings RewordsSection)) d'

section

variable {α β ε : Type} {key : Document} {r : Document → Document → Prop} {ps qs : Pairs}

theorem ChangedAt.map_lookup (h : ChangedAt key r ps qs) {read : Document → α}
    (hread : ∀ d d', r d d' → read d' = read d) (name : String) :
    (lookup qs name).map read = (lookup ps name).map read := by
  obtain ⟨ps, qs, h⟩ := h
  rw [Document.lookup_append, Document.lookup_append]
  cases lookup ps name with
  | some d => rfl
  | none =>
    rw [Option.none_or, Option.none_or]
    by_cases hkey : key = .string name
    · subst hkey
      rw [Document.lookup_cons_self, Document.lookup_cons_self, Option.map_some, Option.map_some,
        hread _ _ h]
    · rw [Document.lookup_cons_of_ne hkey, Document.lookup_cons_of_ne hkey]

/-- A value that is read alike can be changed. -/
theorem ChangedAt.map_lookupAny (h : ChangedAt key r ps qs) {read : Document → α}
    (hread : ∀ d d', r d d' → read d' = read d) (names : List String) :
    (lookupAny qs names).map read = (lookupAny ps names).map read := by
  induction names with
  | nil => rfl
  | cons name names ih =>
    have hname := h.map_lookup hread name
    rw [Document.lookupAny_cons, Document.lookupAny_cons, Option.map_or, Option.map_or, hname, ih]

/-- What stands under other keys stays. -/
theorem ChangedAt.lookupAny_eq {name : String} (h : ChangedAt (.string name) r ps qs)
    {names : List String} (hname : name ∉ names) : lookupAny qs names = lookupAny ps names := by
  obtain ⟨ps, qs, -⟩ := h
  refine Document.lookupAny_congr fun other hother => ?_
  have hne : Document.string name ≠ .string other := by
    rintro ⟨rfl⟩
    exact hname hother
  rw [Document.lookup_insert_of_ne hne, Document.lookup_insert_of_ne hne]

/-- What stands under the other keys of a vocabulary stays. -/
theorem ChangedAt.lookupAny_eq_of_ne {name : String} (h : ChangedAt (.string name) r ps qs)
    (v : Vocabulary) {key : List String} (hname : name ∈ key) (hkey : key ∈ v.keys) :
    ∀ key' ∈ v.keys, key' ≠ key → lookupAny qs key' = lookupAny ps key' :=
  fun _ hkey' hne => h.lookupAny_eq fun hname' => hne (v.eq_of_mem hkey' hkey hname' hname)

theorem Document.BothMappings.pairs? {rel : Pairs → Pairs → Prop} {d d' : Document}
    (h : d.BothMappings rel d') :
    ∃ ps qs, rel ps qs ∧ d.pairs? = some ps ∧ d'.pairs? = some qs := by
  induction h with
  | mapping h => exact ⟨_, _, h, rfl, rfl⟩
  | tagged tag h ih => exact ih

/-- A list is read alike if one of its items is. -/
theorem mapM_change {read : α → Except ε β} (before after : List α) {a a' : α}
    (h : read a' = read a) :
    (before ++ a' :: after).mapM read = (before ++ a :: after).mapM read := by
  rw [List.mapM_append, List.mapM_append, List.mapM_cons, List.mapM_cons, h]

end

/-! ### The parts of an option -/

section

variable {ps qs : Pairs}

theorem Vocabulary.Rewords.lookup_eq {v : Vocabulary} (h : v.Rewords ps qs) (name : String)
    (hname : [name] ∈ v.keys) : lookup qs name = lookup ps name := by
  simpa using h.lookupAny_eq [name] hname

theorem Bounds.ofDocument?_reworded {d d' : Document}
    (h : d.BothMappings Vocabulary.ofBounds.Rewords d') :
    Bounds.ofDocument? d' = Bounds.ofDocument? d := by
  obtain ⟨ps, qs, hwords, hps, hqs⟩ := h.pairs?
  have hmin := hwords.lookup_eq "min" (by decide)
  have hmax := hwords.lookup_eq "max" (by decide)
  have hstep := hwords.lookup_eq "step" (by decide)
  simp only [ofDocument?, hps, hqs, Option.bind_eq_bind, Option.bind_some, numberUnder, hmin, hmax,
    hstep]

theorem Rule.ofPairs_reworded (h : Vocabulary.ofRule.Rewords ps qs) :
    Rule.ofPairs qs = Rule.ofPairs ps := by
  have hproperty := h.lookupAny_eq ["property"] (by decide)
  have hselector := h.lookupAny_eq ["selector"] (by decide)
  have hunit := h.lookupAny_eq ["unit"] (by decide)
  have hcallback := h.lookupAny_eq ["callback_filter", "callback"] (by decide)
  simp only [ofPairs, textUnder, unitUnder, hproperty, hselector, hunit, hcallback]

theorem rulesOfDocument_mapping (ps : Pairs) :
    rulesOfDocument (.mapping ps) = .ok [Rule.ofPairs ps] := rfl

theorem rulesOfDocument_reworded {d d' : Document} (h : d.RewordsRules d') :
    rulesOfDocument d' = rulesOfDocument d := by
  cases h with
  | single h => rw [rulesOfDocument_mapping, rulesOfDocument_mapping, Rule.ofPairs_reworded h]
  | tagged tag h => rfl
  | item before after h =>
    obtain ⟨ps, qs, hwords, hps, hqs⟩ := h.pairs?
    show List.mapM _ (before ++ _ :: after).zipIdx = List.mapM _ (before ++ _ :: after).zipIdx
    rw [List.zipIdx_append, List.zipIdx_append, List.zipIdx_cons, List.zipIdx_cons]
    refine mapM_change _ _ ?_
    simp only [hps, hqs, Rule.ofPairs_reworded hwords]

theorem FontFieldSpec.ofDocument_reworded {d d' : Document}
    (h : d.BothMappings Vocabulary.ofFontField.Rewords d') :
    FontFieldSpec.ofDocument d' = FontFieldSpec.ofDocument d := by
  cases h with
  | tagged tag h => rfl
  | mapping h =>
    have henabled := h.lookup_eq "enabled" (by decide)
    have hmin := h.lookup_eq "min" (by decide)
    have hmax := h.lookup_eq "max" (by decide)
    have hstep := h.lookup_eq "step" (by decide)
    have hunit := h.lookupAny_eq ["unit"] (by decide)
    simp only [ofDocument, numberUnder, unitUnder, textUnder, henabled, hmin, hmax, hstep, hunit]

theorem readFontFields_reworded {d d' field : Document}
    (h : d.BothMappings (ChangedAt field
      (Document.BothMappings Vocabulary.ofFontField.Rewords)) d') :
    readFontFields d' = readFontFields d := by
  obtain ⟨ps, qs, ⟨before, after, hwords⟩, hps, hqs⟩ := h.pairs?
  simp only [readFontFields, hps, hqs, fontFieldsOfPairs, List.foldl_append, List.foldl_cons,
    FontFieldSpec.ofDocument_reworded hwords]

end

/-! ### Options -/

/-- The keys of an option under which there is no mapping with fixed keys. -/
def Vocabulary.plainKeys : List (List String) := ofOption.keys.take 10

/-- All that is read of two options is alike. -/
structure PartsAlike (ps qs : Pairs) : Prop where
  plain : ∀ key ∈ Vocabulary.plainKeys, lookupAny qs key = lookupAny ps key
  bounds : (lookupAny qs ["input_attrs", "input_constraints"]).map Bounds.ofDocument? =
    (lookupAny ps ["input_attrs", "input_constraints"]).map Bounds.ofDocument?
  rules : (lookupAny qs ["css"]).map rulesOfDocument = (lookupAny ps ["css"]).map rulesOfDocument
  fontFields : (lookupAny qs ["fields", "sub_fields"]).map readFontFields =
    (lookupAny ps ["fields", "sub_fields"]).map readFontFields

theorem readUnder_eq {α : Type} (pairs : Pairs) (names : List String) (missing : α)
    (read : Document → Except OptionOffence α) :
    readUnder pairs names missing read = ((lookupAny pairs names).map read).getD (.ok missing) := by
  unfold readUnder
  cases lookupAny pairs names <;> rfl

theorem Entry.ofPairs_congr {ps qs : Pairs} (h : PartsAlike ps qs) (optionId : String) :
    Entry.ofPairs optionId qs = Entry.ofPairs optionId ps := by
  have hbounds : (lookupAny qs ["input_attrs", "input_constraints"]).bind Bounds.ofDocument? =
      (lookupAny ps ["input_attrs", "input_constraints"]).bind Bounds.ofDocument? := by
    have hjoin := congrArg (fun read => read.bind fun b => b) h.bounds
    simpa only [Option.bind_map, Function.comp_def] using hjoin
  have hlookup (name : String) (hname : [name] ∈ Vocabulary.plainKeys) :
      lookup qs name = lookup ps name := by
    simpa using h.plain [name] hname
  simp only [Entry.ofPairs, readUnder_eq, textUnder, h.plain ["default"] (by decide), h.rules,
    h.fontFields, hbounds, hlookup "choices" (by decide), hlookup "live" (by decide),
    hlookup "recommended" (by decide), h.plain ["type", "kind"] (by decide),
    h.plain ["label"] (by decide), h.plain ["desc", "description"] (by decide),
    h.plain ["selector"] (by decide), h.plain ["html"] (by decide),
    h.plain ["active_callback", "active_when"] (by decide)]

theorem RewordsOption.partsAlike {ps qs : Pairs} (h : RewordsOption ps qs) : PartsAlike ps qs := by
  have hplain : ∀ key ∈ Vocabulary.plainKeys, key ∈ Vocabulary.ofOption.keys ∧
      key ≠ ["input_attrs", "input_constraints"] ∧ key ≠ ["css"] ∧
      key ≠ ["fields", "sub_fields"] := by
    decide
  have hbounds : ["input_attrs", "input_constraints"] ∈ Vocabulary.ofOption.keys := by decide
  have hrules : ["css"] ∈ Vocabulary.ofOption.keys := by decide
  have hfields : ["fields", "sub_fields"] ∈ Vocabulary.ofOption.keys := by decide
  cases h with
  | keys h =>
    exact {
      plain := fun key hkey => h.lookupAny_eq key (hplain key hkey).1
      bounds := by rw [h.lookupAny_eq _ hbounds]
      rules := by rw [h.lookupAny_eq _ hrules]
      fontFields := by rw [h.lookupAny_eq _ hfields] }
  | bounds hname h =>
    have hothers := h.lookupAny_eq_of_ne .ofOption hname hbounds
    exact {
      plain := fun key hkey => hothers key (hplain key hkey).1 (hplain key hkey).2.1
      bounds := h.map_lookupAny (fun _ _ => Bounds.ofDocument?_reworded) _
      rules := by rw [hothers _ hrules (by decide)]
      fontFields := by rw [hothers _ hfields (by decide)] }
  | rules h =>
    have hothers := h.lookupAny_eq_of_ne .ofOption List.mem_cons_self hrules
    exact {
      plain := fun key hkey => hothers key (hplain key hkey).1 (hplain key hkey).2.2.1
      bounds := by rw [hothers _ hbounds (by decide)]
      rules := h.map_lookupAny (fun _ _ => rulesOfDocument_reworded) _
      fontFields := by rw [hothers _ hfields (by decide)] }
  | fontField hname h =>
    have hothers := h.lookupAny_eq_of_ne .ofOption hname hfields
    exact {
      plain := fun key hkey => hothers key (hplain key hkey).1 (hplain key hkey).2.2.2
      bounds := by rw [hothers _ hbounds (by decide)]
      rules := by rw [hothers _ hrules (by decide)]
      fontFields := h.map_lookupAny (fun _ _ => readFontFields_reworded) _ }

theorem Entry.ofPair_reworded {sectionId : String} {key d d' : Document}
    (h : d.BothMappings RewordsOption d') :
    Entry.ofPair sectionId (key, d') = Entry.ofPair sectionId (key, d) := by
  obtain ⟨ps, qs, hwords, hps, hqs⟩ := h.pairs?
  simp only [ofPair, hps, hqs, Entry.ofPairs_congr hwords.partsAlike]

/-! ### Sections and contributions -/

theorem optionsOfDocument_reworded {sectionId : String} {d d' id : Document}
    (h : d.BothMappings (ChangedAt id (Document.BothMappings RewordsOption)) d') :
    optionsOfDocument sectionId d' = optionsOfDocument sectionId d := by
  cases h with
  | tagged tag h => rfl
  | mapping h =>
    obtain ⟨before, after, hwords⟩ := h
    exact mapM_change before after (Entry.ofPair_reworded hwords)

theorem optionsOfDocument_getD (sectionId : String) (o : Option Document) :
    optionsOfDocument sectionId (o.getD .null) =
      (o.map (optionsOfDocument sectionId)).getD (.ok []) := by
  cases o <;> rfl

theorem Section.ofPairs_congr {ps qs : Pairs} (sectionId : String)
    (hothers : ∀ key ∈ Vocabulary.ofSection.keys, key ≠ ["options"] →
      lookupAny qs key = lookupAny ps key)
    (hoptions : (lookupAny qs ["options"]).map (optionsOfDocument sectionId) =
      (lookupAny ps ["options"]).map (optionsOfDocument sectionId)) :
    Section.ofPairs sectionId qs = Section.ofPairs sectionId ps := by
  have htitle := hothers ["title"] (by decide) (by decide)
  have hdescription := hothers ["description", "desc"] (by decide) (by decide)
  have hpanel := hothers ["panel"] (by decide) (by decide)
  have hpriority : lookup qs "priority" = lookup ps "priority" := by
    simpa using hothers ["priority"] (by decide) (by decide)
  have hread : (lookup qs "options").map (optionsOfDocument sectionId) =
      (lookup ps "options").map (optionsOfDocument sectionId) := by
    simpa using hoptions
  simp only [ofPairs, optionsOfDocument_getD, textUnder, hread, htitle, hdescription, hpanel,
    hpriority]

theorem Section.ofPairs_reworded {ps qs : Pairs} (h : RewordsSection ps qs) (sectionId : String) :
    Section.ofPairs sectionId qs = Section.ofPairs sectionId ps := by
  have hoptions : ["options"] ∈ Vocabulary.ofSection.keys := by decide
  cases h with
  | keys h =>
    refine Section.ofPairs_congr sectionId (fun key hkey _ => h.lookupAny_eq key hkey) ?_
    rw [h.lookupAny_eq _ hoptions]
  | option h =>
    exact Section.ofPairs_congr sectionId
      (h.lookupAny_eq_of_ne .ofSection List.mem_cons_self hoptions)
      (h.map_lookupAny (fun _ _ => optionsOfDocument_reworded) _)

theorem Section.ofPair_reworded {key d d' : Document} (h : d.BothMappings RewordsSection d') :
    Section.ofPair (key, d') = Section.ofPair (key, d) := by
  obtain ⟨ps, qs, hwords, hps, hqs⟩ := h.pairs?
  simp only [ofPair, hps, hqs, Section.ofPairs_reworded hwords]

theorem Contribution.ofDocument_rewords {d d' : Document} (h : d.Rewords d') :
    ofDocument d' = ofDocument d := by
  obtain ⟨id, h⟩ := h
  cases h with
  | tagged tag h => rfl
  | mapping h =>
    obtain ⟨before, after, hwords⟩ := h
    simp only [ofDocument, mapM_change before after (Section.ofPair_reworded hwords)]

/-- **A contribution document may be worded in any way that says the same.** -/
theorem Contribution.ofDocument_eq_of_eqvGen {d d' : Document}
    (h : Relation.EqvGen Document.Rewords d d') : ofDocument d' = ofDocument d := by
  induction h with
  | rel d d' h => exact ofDocument_rewords h
  | refl d => rfl
  | symm d d' h ih => exact ih.symm
  | trans d d' d'' h h' ih ih' => exact ih'.trans ih

namespace Sample

/-- A document with one section. -/
def frameSection (fields : Pairs) : Document :=
  .mapping [(.string "frames", .tagged "theme" (.mapping fields))]

/-- The keys of a section whose one option is the width of a frame. -/
def frameOption (fields : Pairs) : Pairs :=
  [(.string "desc", .string "Frames"),
    (.string "options", .mapping [(.string "width", .mapping fields)])]

/-- The keys of an option with limits, rules and a font field. -/
def frameParts (kind : String) (bounds rule field : Pairs) : Pairs :=
  [(.string kind, .string "range"), (.string "input_attrs", .mapping bounds),
    (.string "css", .sequence [.mapping [], .mapping rule]),
    (.string "fields", .mapping [(.string "font-size", .mapping field)])]

def ascending : Pairs := [(.string "min", .number (.int 0)), (.string "max", .number (.int 9))]

def spacing (callback : String) : Pairs :=
  [(.string "property", .string "width"), (.string callback, .string "spacing")]

def pixels : Pairs := [(.string "unit", .string "px")]

/-- The width of a frame in some words, with a key of a font field that stands for nothing. -/
def frameWords : Document :=
  frameSection (frameOption (frameParts "type" ascending (spacing "callback")
    (pixels ++ [(.number (.int 7), .null)])))

/-- The width of a frame in other words. -/
def otherFrameWords : Document :=
  frameSection (frameOption (frameParts "kind" ascending.reverse (spacing "callback_filter")
    pixels)).reverse

theorem rewords_section {ps qs : Pairs} (h : RewordsSection ps qs) :
    (frameSection ps).Rewords (frameSection qs) :=
  ⟨_, .mapping (.intro [] [] (.tagged _ (.mapping h)))⟩

theorem rewords_option {ps qs : Pairs} (h : RewordsOption ps qs) :
    (frameSection (frameOption ps)).Rewords (frameSection (frameOption qs)) :=
  rewords_section (.option (.intro [_] [] (.mapping (.intro [] [] (.mapping h)))))

theorem rewords_kind (bounds rule field : Pairs) :
    RewordsOption (frameParts "type" bounds rule field) (frameParts "kind" bounds rule field) :=
  .keys (.respell [] _ _ ["type", "kind"] "type" "kind" (by decide) (by decide) (by decide)
    (by simp [Document.lookup]))

theorem rewords_bounds (kind : String) (rule field : Pairs) :
    RewordsOption (frameParts kind ascending rule field)
      (frameParts kind ascending.reverse rule field) :=
  .bounds List.mem_cons_self
    (.intro [_] _ (.mapping (.reorder (by decide) (List.reverse_perm _).symm)))

theorem rewords_rule (kind : String) (bounds field : Pairs) :
    RewordsOption (frameParts kind bounds (spacing "callback") field)
      (frameParts kind bounds (spacing "callback_filter") field) :=
  .rules (.intro [_, _] _ (.item [_] [] (.mapping (.respell [_] [] _
    ["callback_filter", "callback"] "callback" "callback_filter" (by decide) (by decide)
    (by decide) (by decide)))))

theorem rewords_field (kind : String) (bounds rule : Pairs) :
    RewordsOption (frameParts kind bounds rule pixels)
      (frameParts kind bounds rule (pixels ++ [(.number (.int 7), .null)])) :=
  .fontField List.mem_cons_self (.intro [_, _, _] [] (.mapping (.intro [] [] (.mapping
    (.extend pixels [] _ (by simp))))))

/-- One change in each of the five kinds of mappings. -/
theorem reworded_frameWords : Relation.EqvGen Document.Rewords frameWords otherFrameWords := by
  have hkind := rewords_option (rewords_kind ascending (spacing "callback")
    (pixels ++ [(.number (.int 7), .null)]))
  have hfield := rewords_option (rewords_field "kind" ascending (spacing "callback"))
  have hrule := rewords_option (rewords_rule "kind" ascending pixels)
  have hbounds := rewords_option (rewords_bounds "kind" (spacing "callback_filter") pixels)
  have hsection : (frameSection (frameOption (frameParts "kind" ascending.reverse
      (spacing "callback_filter") pixels))).Rewords otherFrameWords :=
    rewords_section (.keys (.reorder (by simp [frameOption, textKeys]) (List.reverse_perm _).symm))
  exact (Relation.EqvGen.rel _ _ hkind).trans _ _ _ (.trans _ _ _ (.symm _ _ (.rel _ _ hfield))
    (.trans _ _ _ (.rel _ _ hrule) (.trans _ _ _ (.rel _ _ hbounds) (.rel _ _ hsection))))

end Sample

theorem ofDocument_eq_of_eqvGen_frameWords :
    Relation.EqvGen Document.Rewords Sample.frameWords Sample.otherFrameWords ∧
    Contribution.ofDocument Sample.otherFrameWords = Contribution.ofDocument Sample.frameWords :=
  ⟨Sample.reworded_frameWords, Contribution.ofDocument_eq_of_eqvGen Sample.reworded_frameWords⟩

end ThemeOptions
