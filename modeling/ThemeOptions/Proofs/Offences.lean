import Mathlib.Data.List.Forall2
import ThemeOptions.Contribution.Reading
import ThemeOptions.Proofs.Collections
import ThemeOptions.Proofs.OptionValues

/-!
# What is wrong with a contribution document

`Document.Offends` says what there is to object to in a document, whatever else is wrong with it,
and `Document.offences` lists all of that in the order of the document.  A contribution is read from
a document just when there is nothing in the list, and otherwise the first of it is reported; so
what stands behind an offence is never looked at, but what repeats an id is.

Each level of a document has its own relation, its own list and its own reading, and the same two
things are said of all of them: the list holds what the relation says, and the reading fails with
the head of the list (`offence?`).
-/

namespace ThemeOptions

open Document (lookup lookupAny)

/-! ### Offences -/

/-- What there is to object to in the parts of an option. -/
inductive OptionOffends (fields : List (Document × Document)) : OptionOffence → Prop
  | default {d problem} (hd : lookup fields "default" = some d) (hvalue : d.isOptionValue = false)
      (hproblem : Value.ofDocument d = .error problem) : OptionOffends fields (.badDefault problem)
  | css {d} (hd : lookup fields "css" = some d) (hnull : d ≠ .null)
      (hmapping : ∀ pairs, d ≠ .mapping pairs) (hsequence : ∀ items, d ≠ .sequence items) :
      OptionOffends fields .cssNotList
  | rule {items item index} (hd : lookup fields "css" = some (.sequence items))
      (hitem : items[index]? = some item) (hpairs : item.pairs? = none) :
      OptionOffends fields (.ruleNotMapping index)
  | fields {d} (hd : lookupAny fields ["fields", "sub_fields"] = some d)
      (hpairs : d.pairs? = none) : OptionOffends fields .fieldsNotMapping

/-- What there is to object to in an option with its key. -/
inductive OptionPairOffends (sectionId : String) : Document × Document → Offence → Prop
  | key {key value} (hkey : key.keyText? = none) :
      OptionPairOffends sectionId (key, value) (.optionKey sectionId)
  | notMapping {key value id} (hkey : key.keyText? = some id) (hpairs : value.pairs? = none) :
      OptionPairOffends sectionId (key, value) (.option sectionId id .notMapping)
  | inPart {key value id fields offence} (hkey : key.keyText? = some id)
      (hpairs : value.pairs? = some fields) (hpart : OptionOffends fields offence) :
      OptionPairOffends sectionId (key, value) (.option sectionId id offence)

/-- What there is to object to in a section with its key. -/
inductive SectionPairOffends : Document × Document → Offence → Prop
  | key {key value} (hkey : key.keyText? = none) : SectionPairOffends (key, value) (.sectionKey key)
  | notMapping {key value id} (hkey : key.keyText? = some id) (hpairs : value.pairs? = none) :
      SectionPairOffends (key, value) (.sectionNotMapping id)
  | options {key value id fields d} (hkey : key.keyText? = some id)
      (hpairs : value.pairs? = some fields) (hd : lookup fields "options" = some d)
      (hnull : d ≠ .null) (hmapping : ∀ pairs, d ≠ .mapping pairs) :
      SectionPairOffends (key, value) (.optionsNotMapping id)
  | inOption {key value id fields options pair offence} (hkey : key.keyText? = some id)
      (hpairs : value.pairs? = some fields)
      (hoptions : lookup fields "options" = some (.mapping options)) (hpair : pair ∈ options)
      (hoption : OptionPairOffends id pair offence) : SectionPairOffends (key, value) offence

/-- What there is to object to in a contribution document. -/
inductive Document.Offends : Document → Offence → Prop
  | root {d} (hnull : d ≠ .null) (hmapping : ∀ pairs, d ≠ .mapping pairs) :
      Offends d .rootNotMapping
  | inSection {sections pair offence} (hpair : pair ∈ sections)
      (hsection : SectionPairOffends pair offence) : Offends (.mapping sections) offence

/-! ### Offences in order -/

def defaultOffences : Option Document → List OptionOffence
  | none => []
  | some d =>
    match Value.ofDocument d with
    | .error problem => [.badDefault problem]
    | .ok _ => []

def cssOffences : Option Document → List OptionOffence
  | none | some .null | some (.mapping _) => []
  | some (.sequence items) => items.zipIdx.filterMap fun (item, index) =>
      if item.pairs?.isSome then none else some (.ruleNotMapping index)
  | some _ => [.cssNotList]

def fontFieldOffences : Option Document → List OptionOffence
  | none => []
  | some d => if d.pairs?.isSome then [] else [.fieldsNotMapping]

/-- All offences in the parts of an option: those of the default, of the CSS and of the font
fields. -/
def partOffences (fields : List (Document × Document)) : List OptionOffence :=
  defaultOffences (lookup fields "default") ++ cssOffences (lookup fields "css") ++
    fontFieldOffences (lookupAny fields ["fields", "sub_fields"])

/-- All offences in an option with its key. -/
def optionPairOffences (sectionId : String) (pair : Document × Document) : List Offence :=
  match pair.1.keyText? with
  | none => [.optionKey sectionId]
  | some id =>
    match pair.2.pairs? with
    | none => [.option sectionId id .notMapping]
    | some fields => (partOffences fields).map (.option sectionId id)

def optionsOffences (sectionId : String) : Document → List Offence
  | .null => []
  | .mapping options => options.flatMap (optionPairOffences sectionId)
  | _ => [.optionsNotMapping sectionId]

/-- All offences in a section with its key. -/
def sectionPairOffences (pair : Document × Document) : List Offence :=
  match pair.1.keyText? with
  | none => [.sectionKey pair.1]
  | some id =>
    match pair.2.pairs? with
    | none => [.sectionNotMapping id]
    | some fields => optionsOffences id ((lookup fields "options").getD .null)

/-- All offences in a contribution document, section by section and option by option. -/
def Document.offences : Document → List Offence
  | .null => []
  | .mapping sections => sections.flatMap sectionPairOffences
  | _ => [.rootNotMapping]

theorem mem_defaultOffences {o : Option Document} {x : OptionOffence} : x ∈ defaultOffences o ↔
    ∃ d problem, o = some d ∧ d.isOptionValue = false ∧ Value.ofDocument d = .error problem ∧
      x = .badDefault problem := by
  cases o with
  | none => simp [defaultOffences]
  | some d =>
    have hvalue := Value.exists_ofDocument_iff d
    rw [defaultOffences]
    cases hd : Value.ofDocument d with
    | ok v => simp [hd]
    | error problem =>
      simp only [hd, reduceCtorEq, exists_false, false_iff, Bool.not_eq_true] at hvalue
      simp [hvalue, hd]

theorem mem_cssOffences {o : Option Document} {x : OptionOffence} : x ∈ cssOffences o ↔
    (∃ d, o = some d ∧ d ≠ .null ∧ (∀ pairs, d ≠ .mapping pairs) ∧
      (∀ items, d ≠ .sequence items) ∧ x = .cssNotList) ∨
    ∃ items item index, o = some (.sequence items) ∧ items[index]? = some item ∧
      item.pairs? = none ∧ x = .ruleNotMapping index := by
  cases o with
  | none => simp [cssOffences]
  | some d =>
    cases d with
    | sequence items =>
      simp only [cssOffences, List.mem_filterMap, Prod.exists, List.mem_zipIdx_iff_getElem?]
      constructor
      · rintro ⟨item, index, hitem, hx⟩
        cases hpairs : item.pairs? with
        | none => exact .inr ⟨items, item, index, rfl, hitem, hpairs, by simp_all⟩
        | some pairs => simp [hpairs] at hx
      · rintro (⟨d, hd, -, -, hsequence, -⟩ | ⟨items', item, index, hd, hitem, hpairs, rfl⟩)
        · exact absurd (Option.some.inj hd).symm (hsequence items)
        · obtain rfl := Document.sequence.inj (Option.some.inj hd)
          exact ⟨item, index, hitem, by simp [hpairs]⟩
    | _ => simp [cssOffences]

theorem mem_fontFieldOffences {o : Option Document} {x : OptionOffence} :
    x ∈ fontFieldOffences o ↔ ∃ d, o = some d ∧ d.pairs? = none ∧ x = .fieldsNotMapping := by
  cases o with
  | none => simp [fontFieldOffences]
  | some d => cases hd : d.pairs? <;> simp [fontFieldOffences, hd]

theorem mem_partOffences {fields : List (Document × Document)} {x : OptionOffence} :
    x ∈ partOffences fields ↔ OptionOffends fields x := by
  rw [partOffences, List.mem_append, List.mem_append, mem_defaultOffences, mem_cssOffences,
    mem_fontFieldOffences]
  constructor
  · rintro ((⟨d, problem, hd, hvalue, hproblem, rfl⟩ | ⟨d, hd, hnull, hmapping, hsequence, rfl⟩ |
      ⟨items, item, index, hd, hitem, hpairs, rfl⟩) | ⟨d, hd, hpairs, rfl⟩)
    · exact .default hd hvalue hproblem
    · exact .css hd hnull hmapping hsequence
    · exact .rule hd hitem hpairs
    · exact .fields hd hpairs
  · intro h
    cases h with
    | default hd hvalue hproblem => exact .inl (.inl ⟨_, _, hd, hvalue, hproblem, rfl⟩)
    | css hd hnull hmapping hsequence =>
      exact .inl (.inr (.inl ⟨_, hd, hnull, hmapping, hsequence, rfl⟩))
    | rule hd hitem hpairs => exact .inl (.inr (.inr ⟨_, _, _, hd, hitem, hpairs, rfl⟩))
    | fields hd hpairs => exact .inr ⟨_, hd, hpairs, rfl⟩

theorem mem_optionPairOffences {sectionId : String} {pair : Document × Document} {x : Offence} :
    x ∈ optionPairOffences sectionId pair ↔ OptionPairOffends sectionId pair x := by
  obtain ⟨key, value⟩ := pair
  rw [optionPairOffences]
  constructor
  · intro h
    split at h
    · rename_i hkey
      obtain rfl := List.mem_singleton.mp h
      exact .key hkey
    · rename_i id hkey
      split at h
      · rename_i hpairs
        obtain rfl := List.mem_singleton.mp h
        exact .notMapping hkey hpairs
      · rename_i fields hpairs
        obtain ⟨offence, hpart, rfl⟩ := List.mem_map.mp h
        exact .inPart hkey hpairs (mem_partOffences.mp hpart)
  · intro h
    cases h with
    | key hkey => simp [hkey]
    | notMapping hkey hpairs => simp [hkey, hpairs]
    | inPart hkey hpairs hpart => simp [hkey, hpairs, mem_partOffences, hpart]

theorem mem_optionsOffences {sectionId : String} {d : Document} {x : Offence} :
    x ∈ optionsOffences sectionId d ↔
      (d ≠ .null ∧ (∀ pairs, d ≠ .mapping pairs) ∧ x = .optionsNotMapping sectionId) ∨
      ∃ options pair, d = .mapping options ∧ pair ∈ options ∧
        OptionPairOffends sectionId pair x := by
  cases d with
  | mapping options => simp [optionsOffences, mem_optionPairOffences]
  | _ => simp [optionsOffences]

theorem mem_sectionPairOffences {pair : Document × Document} {x : Offence} :
    x ∈ sectionPairOffences pair ↔ SectionPairOffends pair x := by
  obtain ⟨key, value⟩ := pair
  rw [sectionPairOffences]
  constructor
  · intro h
    split at h
    · rename_i hkey
      obtain rfl := List.mem_singleton.mp h
      exact .key hkey
    · rename_i id hkey
      split at h
      · rename_i hpairs
        obtain rfl := List.mem_singleton.mp h
        exact .notMapping hkey hpairs
      · rename_i fields hpairs
        cases hd : lookup fields "options" with
        | none => simp [hd, optionsOffences] at h
        | some d =>
          rw [hd, Option.getD_some, mem_optionsOffences] at h
          obtain ⟨hnull, hmapping, rfl⟩ | ⟨options, pair, rfl, hpair, hoption⟩ := h
          · exact .options hkey hpairs hd hnull hmapping
          · exact .inOption hkey hpairs hd hpair hoption
  · intro h
    cases h with
    | key hkey => simp [hkey]
    | notMapping hkey hpairs => simp [hkey, hpairs]
    | options hkey hpairs hd hnull hmapping =>
      simp only [hkey, hpairs, hd, Option.getD_some]
      exact mem_optionsOffences.mpr (.inl ⟨hnull, hmapping, rfl⟩)
    | inOption hkey hpairs hoptions hpair hoption =>
      simp only [hkey, hpairs, hoptions, Option.getD_some]
      exact mem_optionsOffences.mpr (.inr ⟨_, _, rfl, hpair, hoption⟩)

/-- The list holds what there is to object to. -/
theorem Document.mem_offences {d : Document} {x : Offence} : x ∈ d.offences ↔ d.Offends x := by
  constructor
  · intro h
    cases d with
    | null => cases h
    | mapping sections =>
      obtain ⟨pair, hpair, hx⟩ := List.mem_flatMap.mp h
      exact .inSection hpair (mem_sectionPairOffences.mp hx)
    | _ =>
      obtain rfl := List.mem_singleton.mp h
      exact .root (by simp) (by simp)
  · intro h
    cases h with
    | root hnull hmapping => cases d <;> simp_all [offences]
    | inSection hpair hsection =>
      exact List.mem_flatMap.mpr ⟨_, hpair, mem_sectionPairOffences.mpr hsection⟩

/-! ### The offence that is reported -/

/-- The offence for which a reading fails. -/
def offence? {ε α : Type} : Except ε α → Option ε
  | .error e => some e
  | .ok _ => none

section Offence

variable {ε ε' α β : Type}

theorem offence?_eq_some_iff {x : Except ε α} {e : ε} : offence? x = some e ↔ x = .error e := by
  cases x <;> simp [offence?]

theorem offence?_bind (x : Except ε α) (f : α → Except ε β) {e : Option ε}
    (h : ∀ a, x = .ok a → offence? (f a) = e) : offence? (x >>= f) = (offence? x).or e := by
  cases x with
  | error e' => rfl
  | ok a => exact h a rfl

theorem offence?_bind_ok (x : Except ε α) (f : α → β) :
    offence? (x >>= fun a => .ok (f a)) = offence? x := by
  cases x <;> rfl

theorem offence?_map (x : Except ε α) (f : α → β) : offence? (x.map f) = offence? x := by
  cases x <;> rfl

theorem offence?_mapError (x : Except ε α) (f : ε → ε') :
    offence? (x.mapError f) = (offence? x).map f := by
  cases x <;> rfl

/-- A list is read up to the first item that is not. -/
theorem offence?_mapM {read : α → Except ε β} {offences : α → List ε} (l : List α)
    (h : ∀ a ∈ l, offence? (read a) = (offences a).head?) :
    offence? (l.mapM read) = (l.flatMap offences).head? := by
  induction l with
  | nil => rfl
  | cons a l ih =>
    rw [List.mapM_cons, List.flatMap_cons, List.head?_append, ← h a (by simp),
      ← ih fun b hb => h b (by simp [hb])]
    exact offence?_bind _ _ fun b _ => offence?_bind_ok _ _

end Offence

theorem offence?_readUnder {α : Type} {fields : List (Document × Document)} {names : List String}
    {missing : α} {read : Document → Except OptionOffence α}
    {offences : Option Document → List OptionOffence} (hmissing : offences none = [])
    (hread : ∀ d, offence? (read d) = (offences (some d)).head?) :
    offence? (readUnder fields names missing read) = (offences (lookupAny fields names)).head? := by
  unfold readUnder
  cases lookupAny fields names with
  | none => rw [hmissing]; rfl
  | some d => exact hread d

theorem offence?_readDefault (d : Document) :
    offence? (readDefault d) = (defaultOffences (some d)).head? := by
  cases hd : Value.ofDocument d <;> simp [readDefault, defaultOffences, hd, offence?]

theorem offence?_rulesOfDocument (d : Document) :
    offence? (rulesOfDocument d) = (cssOffences (some d)).head? := by
  cases d with
  | sequence items =>
    rw [cssOffences, List.filterMap_eq_flatMap_toList]
    refine offence?_mapM items.zipIdx fun x _ => ?_
    obtain ⟨item, index⟩ := x
    cases hitem : item.pairs? <;> simp [hitem, offence?]
  | mapping pairs => rfl
  | _ => rfl

theorem offence?_readFontFields (d : Document) :
    offence? (readFontFields d) = (fontFieldOffences (some d)).head? := by
  cases hd : d.pairs? <;> simp [readFontFields, fontFieldOffences, hd, offence?]

theorem Entry.offence?_ofPairs (id : String) (fields : List (Document × Document)) :
    offence? (Entry.ofPairs id fields) = (partOffences fields).head? := by
  have hdefault : offence? (readUnder fields ["default"] none readDefault) = _ :=
    offence?_readUnder rfl offence?_readDefault
  have hrules : offence? (readUnder fields ["css"] [] rulesOfDocument) = _ :=
    offence?_readUnder rfl offence?_rulesOfDocument
  have hfields : offence? (readUnder fields ["fields", "sub_fields"] FontTable.empty
      readFontFields) = _ := offence?_readUnder rfl offence?_readFontFields
  simp only [Document.lookupAny_cons, Document.lookupAny_nil, Option.or_none] at hdefault hrules
  rw [partOffences, List.append_assoc, List.head?_append, List.head?_append, ← hdefault, ← hrules,
    ← hfields]
  exact offence?_bind _ _ fun v _ => offence?_bind _ _ fun rules _ => offence?_bind_ok _ _

theorem Entry.offence?_ofPair (sectionId : String) (pair : Document × Document) :
    offence? (Entry.ofPair sectionId pair) = (optionPairOffences sectionId pair).head? := by
  unfold Entry.ofPair optionPairOffences
  cases pair.1.keyText? with
  | none => rfl
  | some id =>
    cases pair.2.pairs? with
    | none => rfl
    | some fields =>
      simp only [offence?_mapError, Entry.offence?_ofPairs, List.head?_map]

theorem offence?_optionsOfDocument (sectionId : String) (d : Document) :
    offence? (optionsOfDocument sectionId d) = (optionsOffences sectionId d).head? := by
  cases d with
  | mapping options =>
    exact offence?_mapM options fun pair _ => Entry.offence?_ofPair sectionId pair
  | _ => rfl

theorem Section.offence?_ofPair (pair : Document × Document) :
    offence? (Section.ofPair pair) = (sectionPairOffences pair).head? := by
  unfold Section.ofPair sectionPairOffences
  cases pair.1.keyText? with
  | none => rfl
  | some id =>
    cases pair.2.pairs? with
    | none => rfl
    | some fields =>
      show offence? (Section.ofPairs id fields) = _
      rw [← offence?_optionsOfDocument]
      exact offence?_bind_ok _ _

/-- **Reading a contribution fails with the first offence of its document.** -/
theorem Contribution.offence?_ofDocument (d : Document) :
    offence? (Contribution.ofDocument d) = d.offences.head? := by
  cases d with
  | mapping sections =>
    rw [Contribution.ofDocument, offence?_map]
    exact offence?_mapM sections fun pair _ => Section.offence?_ofPair pair
  | _ => rfl

/-! ### What is read -/

theorem exists_of_bind_eq_ok {ε α β : Type} {x : Except ε α} {f : α → Except ε β} {b : β}
    (h : x >>= f = .ok b) : ∃ a, x = .ok a ∧ f a = .ok b := by
  cases x with
  | error e => cases h
  | ok a => exact ⟨a, rfl, h⟩

theorem forall₂_of_mapM_eq_ok {ε α β : Type} {read : α → Except ε β} {l : List α} {items : List β}
    (h : l.mapM read = .ok items) : List.Forall₂ (fun a b => read a = .ok b) l items := by
  induction l generalizing items with
  | nil =>
    obtain rfl := Except.ok.inj h
    exact .nil
  | cons a l ih =>
    rw [List.mapM_cons] at h
    obtain ⟨b, ha, h⟩ := exists_of_bind_eq_ok h
    obtain ⟨bs, hl, h⟩ := exists_of_bind_eq_ok h
    obtain rfl := Except.ok.inj h
    exact .cons ha (ih hl)

namespace Keyed

variable {α : Type} {key : α → String}

/-- What a collection holds was read from the first pairs with their keys, in the order of these. -/
structure IsReadFrom {ε : Type} (c : Keyed α key) (pairs : List (Document × Document))
    (read : Document × Document → Except ε α) : Prop where
  keys : c.keys = (pairs.filterMap (·.1.keyText?)).eraseDups
  first : ∀ a ∈ c.toList, ∃ pair,
    pairs.find? (fun pair => pair.1.keyText? == some (key a)) = some pair ∧ read pair = .ok a

theorem isReadFrom_ofList {ε : Type} {pairs : List (Document × Document)}
    {read : Document × Document → Except ε α} {items : List α}
    (hkey : ∀ pair a, read pair = .ok a → pair.1.keyText? = some (key a))
    (h : pairs.mapM read = .ok items) : (ofList items : Keyed α key).IsReadFrom pairs read := by
  have hread := forall₂_of_mapM_eq_ok h
  clear h
  constructor
  · rw [keys_ofList]
    congr 1
    induction hread with
    | nil => rfl
    | @cons pair a pairs items hpair _ ih =>
      have hsome : pair.1.keyText? = some (key a) := hkey pair a hpair
      rw [List.map_cons, ih,
        List.filterMap_cons_some (f := fun pair : Document × Document => pair.1.keyText?) hsome]
  · intro a ha
    have hfind : items.find? (key · == key a) = some a := by
      rw [← find?_ofList, find?_eq_some_iff]
      exact ⟨ha, rfl⟩
    clear ha
    induction hread with
    | nil => cases hfind
    | @cons pair b pairs items hpair _ ih =>
      have hb := hkey pair b hpair
      by_cases hkeys : key b = key a
      · rw [List.find?_cons_of_pos (by simpa using hkeys)] at hfind
        obtain rfl := Option.some.inj hfind
        exact ⟨pair, List.find?_cons_of_pos (by simp [hb]), hpair⟩
      · rw [List.find?_cons_of_neg (by simpa using hkeys)] at hfind
        rw [List.find?_cons_of_neg (by simpa [hb] using hkeys)]
        exact ih hfind

end Keyed

/-- The pairs of a mapping; there are none in anything else. -/
def Document.members : Document → List (Document × Document)
  | .mapping pairs => pairs
  | _ => []

/-- The options of a section with their keys. -/
def Document.optionPairs (d : Document) : List (Document × Document) :=
  (((d.pairs?).bind (lookup · "options")).getD .null).members

theorem Entry.id_of_ofPairs {id : String} {fields : List (Document × Document)} {e : Entry}
    (h : ofPairs id fields = .ok e) : e.id = id := by
  obtain ⟨v, -, h⟩ := exists_of_bind_eq_ok h
  obtain ⟨rules, -, h⟩ := exists_of_bind_eq_ok h
  obtain ⟨table, -, h⟩ := exists_of_bind_eq_ok h
  obtain rfl := Except.ok.inj h
  rfl

theorem Entry.keyText?_of_ofPair {sectionId : String} {pair : Document × Document} {e : Entry}
    (h : ofPair sectionId pair = .ok e) : pair.1.keyText? = some e.id := by
  unfold ofPair at h
  cases hkey : pair.1.keyText? with
  | none => simp [hkey] at h
  | some id =>
    cases hpairs : pair.2.pairs? with
    | none => simp [hkey, hpairs] at h
    | some fields =>
      cases he : ofPairs id fields with
      | error offence => simp [hkey, hpairs, he, Except.mapError] at h
      | ok e' =>
        simp only [hkey, hpairs, he, Except.mapError] at h
        rw [← Except.ok.inj h, id_of_ofPairs he]

theorem optionsOfDocument_eq_ok {sectionId : String} {d : Document} {options : List Entry}
    (h : optionsOfDocument sectionId d = .ok options) :
    d.members.mapM (Entry.ofPair sectionId) = .ok options := by
  cases d with
  | null => exact h
  | mapping pairs => exact h
  | _ => cases h

/-- A section that is read has the id that its key gives, and the options that are read under it. -/
theorem Section.ofPair_eq_ok {pair : Document × Document} {s : Section} (h : ofPair pair = .ok s) :
    pair.1.keyText? = some s.id ∧ ∃ options,
      pair.2.optionPairs.mapM (Entry.ofPair s.id) = .ok options ∧
      s.options = Keyed.ofList options := by
  unfold ofPair at h
  cases hkey : pair.1.keyText? with
  | none => simp [hkey] at h
  | some id =>
    cases hpairs : pair.2.pairs? with
    | none => simp [hkey, hpairs] at h
    | some fields =>
      simp only [hkey, hpairs] at h
      obtain ⟨options, hoptions, h⟩ := exists_of_bind_eq_ok h
      obtain rfl := Except.ok.inj h
      refine ⟨rfl, options, ?_, rfl⟩
      rw [Document.optionPairs, hpairs]
      exact optionsOfDocument_eq_ok hoptions

theorem Section.isReadFrom {pair : Document × Document} {s : Section} (h : ofPair pair = .ok s) :
    s.options.IsReadFrom pair.2.optionPairs (Entry.ofPair s.id) := by
  obtain ⟨-, options, hread, hoptions⟩ := ofPair_eq_ok h
  rw [hoptions]
  exact Keyed.isReadFrom_ofList (fun pair e => Entry.keyText?_of_ofPair) hread

theorem Contribution.isReadFrom {d : Document} {c : Contribution} (h : ofDocument d = .ok c) :
    c.sections.IsReadFrom d.members Section.ofPair := by
  have hread : ∃ sections, d.members.mapM Section.ofPair = .ok sections ∧
      c.sections = Keyed.ofList sections := by
    cases d with
    | null =>
      obtain rfl := Except.ok.inj h
      exact ⟨[], rfl, rfl⟩
    | mapping pairs =>
      rw [ofDocument] at h
      cases hsections : pairs.mapM Section.ofPair with
      | error offence => rw [hsections] at h; cases h
      | ok sections =>
        rw [hsections] at h
        obtain rfl := Except.ok.inj h
        exact ⟨sections, hsections, rfl⟩
    | _ => cases h
  obtain ⟨sections, hsections, hc⟩ := hread
  rw [hc]
  exact Keyed.isReadFrom_ofList (fun pair s h => (Section.ofPair_eq_ok h).1) hsections

/-- **Reading a contribution fails just when there is something to object to in its document, and
then with the first such offence.  Otherwise the sections are those that stand first under their
ids, in the order of the document, and so are the options of each of them.** -/
theorem Contribution.ofDocument_offences (d : Document) :
    ((∃ o, ofDocument d = .error o) ↔ ∃ o, d.Offends o) ∧
    (∀ o, ofDocument d = .error o ↔ d.offences.head? = some o) ∧
    (∀ o, o ∈ d.offences ↔ d.Offends o) ∧
    ∀ c, ofDocument d = .ok c →
      c.sections.IsReadFrom d.members Section.ofPair ∧
      ∀ pair ∈ d.members, ∀ s, Section.ofPair pair = .ok s →
        s.options.IsReadFrom pair.2.optionPairs (Entry.ofPair s.id) := by
  have hfirst (o : Offence) : ofDocument d = .error o ↔ d.offences.head? = some o := by
    rw [← offence?_eq_some_iff, offence?_ofDocument]
  refine ⟨?_, hfirst, fun o => Document.mem_offences, fun c hc =>
    ⟨isReadFrom hc, fun pair _ s hs => Section.isReadFrom hs⟩⟩
  constructor
  · rintro ⟨o, ho⟩
    exact ⟨o, Document.mem_offences.mp (List.mem_of_head? ((hfirst o).mp ho))⟩
  · rintro ⟨o, ho⟩
    cases hhead : d.offences.head? with
    | none =>
      rw [List.head?_eq_none_iff] at hhead
      exact absurd (Document.mem_offences.mpr ho) (by simp [hhead])
    | some first => exact ⟨first, (hfirst first).mpr hhead⟩

/-- A section whose key is a number, and one with the same id whose option is no mapping. -/
def Sample.repeated : Document :=
  .mapping
    [(.number (.int 1), .mapping [(.string "title", .string "Frame")]),
     (.string "1", .mapping [(.string "options", .mapping [(.string "width", .sequence [])])])]

/-- The second section is left out, but it is read. -/
theorem error_of_repeated_section :
    Contribution.ofDocument Sample.repeated = .error (.option "1" "width" .notMapping) :=
  ((Contribution.ofDocument_offences Sample.repeated).2.1 _).mpr rfl

end ThemeOptions
