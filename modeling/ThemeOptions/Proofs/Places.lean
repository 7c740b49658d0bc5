import Mathlib.Data.List.Range
import ThemeOptions.Proofs.Collections
import ThemeOptions.Proofs.Declarations

/-!
# The places of a compilation

A schema has one *place* for every rule of an option, or for every field of a font.  What comes of a
place (`Entry.outcomeAt`) is said from its option, the contributor of its section, the value and the
transforms alone, and a compilation is nothing but the outcomes of the places in reading order
(`Schema.filterMap_outcomes`).

`compile_places` collects what follows: nothing is lost, doubled or moved, a rule whose transform is
missing or refuses the value is the only one that is skipped, and other options or sections may go
without any effect on the outcome of a place.
-/

open scoped List

namespace ThemeOptions

/-- A place in a schema, each part counted from zero. -/
structure Place where
  sectionIndex : Nat
  /-- The option in its section. -/
  optionIndex : Nat
  /-- The rule of the option, or the field in canonical order if it is a font. -/
  itemIndex : Nat
deriving DecidableEq, Repr

/-- Reading order. -/
def Place.Before (p q : Place) : Prop :=
  p.sectionIndex < q.sectionIndex ∨ p.sectionIndex = q.sectionIndex ∧
    (p.optionIndex < q.optionIndex ∨ p.optionIndex = q.optionIndex ∧ p.itemIndex < q.itemIndex)

namespace Entry

/-- How many places an option has. -/
def itemCount (e : Entry) : Nat :=
  if e.isFont then FontField.all.length else e.rules.length

/-- What comes of one place of an option. -/
def outcomeAt (e : Entry) (origin : Option String) (ts : Transforms) (v : Value) (item : Nat) :
    Outcome :=
  if !e.emitsCss || v.isEmpty then .nothing
  else if e.isFont then
    (e.fontSelector?.bind fun selector =>
      FontField.all[item]?.map (e.compileFontField selector v)).getD .nothing
  else (e.rules[item]?.map (e.compileRule origin ts v)).getD .nothing

end Entry

namespace Schema

/-- The places of a schema in reading order. -/
def places (s : Schema) : List Place :=
  s.sections.zipIdx.flatMap fun x => x.1.options.toList.zipIdx.flatMap fun y =>
    (List.range y.1.itemCount).map fun item => ⟨x.2, y.2, item⟩

/-- The option of a place, with its section. -/
def entryAt? (s : Schema) (p : Place) : Option (Section × Entry) :=
  s.sections[p.sectionIndex]?.bind fun sec =>
    sec.options.toList[p.optionIndex]?.map fun e => (sec, e)

/-- What comes of a place. -/
def outcomeAt (s : Schema) (values : Source) (ts : Transforms) (p : Place) : Outcome :=
  match s.entryAt? p with
  | some x => x.2.outcomeAt x.1.origin ts (values x.2.id) p.itemIndex
  | none => .nothing

end Schema

/-! ### Lists by their indices -/

section

variable {α β : Type}

theorem pairwise_zipIdx (l : List α) : l.zipIdx.Pairwise fun x y => x.2 < y.2 := by
  rw [← List.pairwise_map (f := Prod.snd), List.zipIdx_map_snd]
  exact List.pairwise_lt_range'

theorem flatMap_zipIdx (l : List α) (f : α → List β) :
    (l.zipIdx.flatMap fun x => f x.1) = l.flatMap f := by
  rw [← List.flatMap_map, List.zipIdx_map_fst]

theorem filterMap_range_getElem? {γ : Type} (l : List α) (g : α → γ) (c : γ) (f : γ → Option β) :
    ((List.range l.length).filterMap fun i => f ((l[i]?.map g).getD c)) =
      (l.map g).filterMap f := by
  have hmap : ((List.range l.length).map fun i => (l[i]?.map g).getD c) = l.map g := by
    refine List.ext_getElem (by simp) fun i h _ => ?_
    have hi : i < l.length := by simpa using h
    simp [hi]
  rw [← hmap, List.filterMap_map]
  rfl

end

/-! ### The places of one option -/

namespace Entry

variable {β : Type} {f : Outcome → Option β}

/-- An option gives the outcomes of its places. -/
theorem filterMap_compile (hf : f .nothing = none) (e : Entry) (origin : Option String)
    (ts : Transforms) (v : Value) :
    (e.compile origin ts v).filterMap f =
      (List.range e.itemCount).filterMap fun item => f (e.outcomeAt origin ts v item) := by
  have hnone (h : ∀ item, e.outcomeAt origin ts v item = .nothing) :
      ((List.range e.itemCount).filterMap fun item => f (e.outcomeAt origin ts v item)) = [] :=
    List.filterMap_eq_nil_iff.mpr fun item _ => by rw [h, hf]
  by_cases hsilent : (!e.emitsCss || v.isEmpty) = true
  · rw [compile, if_pos hsilent, hnone fun item => by rw [outcomeAt, if_pos hsilent]]
    rfl
  by_cases hfont : e.isFont = true
  · rw [compile, if_neg hsilent, if_pos hfont]
    cases hselector : e.fontSelector? with
    | none =>
      refine (hnone fun item => ?_).symm
      rw [outcomeAt, if_neg hsilent, if_pos hfont, hselector]
      rfl
    | some selector =>
      simp only [outcomeAt, if_neg hsilent, if_pos hfont, hselector, Option.bind_some, itemCount]
      exact (filterMap_range_getElem? FontField.all _ _ f).symm
  · simp only [compile, outcomeAt, if_neg hsilent, if_neg hfont, itemCount]
    exact (filterMap_range_getElem? e.rules _ _ f).symm

theorem outcomeAt_of_rule {e : Entry} {item : Nat} {r : Rule} (hfont : e.isFont = false)
    (hrule : e.rules[item]? = some r) (origin : Option String) (ts : Transforms) (v : Value) :
    e.outcomeAt origin ts v item =
      if !e.emitsCss || v.isEmpty then .nothing else e.compileRule origin ts v r := by
  simp [outcomeAt, hfont, hrule]

theorem outcomeAt_of_isStatic {e : Entry} (h : e.isStatic = true) (origin : Option String)
    (ts : Transforms) (v : Value) (item : Nat) : e.outcomeAt origin ts v item = .nothing := by
  rw [outcomeAt, emitsCss_of_isStatic h]
  rfl

/-- What comes of a place comes of the option. -/
theorem mem_compile_of_outcomeAt {e : Entry} {origin : Option String} {ts : Transforms} {v : Value}
    {item : Nat} {o : Outcome} (h : e.outcomeAt origin ts v item = o) (ho : o ≠ .nothing) :
    o ∈ e.compile origin ts v := by
  unfold outcomeAt at h
  unfold compile
  by_cases hsilent : (!e.emitsCss || v.isEmpty) = true
  · rw [if_pos hsilent] at h
    exact absurd h.symm ho
  rw [if_neg hsilent] at h ⊢
  by_cases hfont : e.isFont = true
  · rw [if_pos hfont] at h ⊢
    cases hselector : e.fontSelector? with
    | none =>
      rw [hselector] at h
      exact absurd h.symm ho
    | some selector =>
      rw [hselector, Option.bind_some] at h
      cases hfield : FontField.all[item]? with
      | none =>
        rw [hfield] at h
        exact absurd h.symm ho
      | some field =>
        rw [hfield] at h
        exact List.mem_map.mpr ⟨field, List.mem_of_getElem? hfield, h⟩
  · rw [if_neg hfont] at h ⊢
    cases hrule : e.rules[item]? with
    | none =>
      rw [hrule] at h
      exact absurd h.symm ho
    | some r =>
      rw [hrule] at h
      exact List.mem_map.mpr ⟨r, List.mem_of_getElem? hrule, h⟩

theorem finding?_compileFontField (e : Entry) (selector : String) (v : Value) (field : FontField) :
    (e.compileFontField selector v field).finding? = none := by
  unfold compileFontField
  split
  · rfl
  · split <;> rfl

theorem finding?_emit (e : Entry) (r : Rule) (property : String) (v : Value) :
    (e.emit r property v).finding? = none := by
  unfold emit
  split <;> rfl

/-- A rule is reported if its transform does not exist or refuses the value. -/
theorem finding?_compileRule_isSome {e : Entry} {origin : Option String} {ts : Transforms}
    {v : Value} {r : Rule} :
    (e.compileRule origin ts v r).finding?.isSome = true ↔
      ∃ name, r.transform? = some name ∧
        ∀ t, ts.get? name = some t → ∃ err, t.apply v r e = .error err := by
  unfold compileRule
  cases hname : r.transform? with
  | none => simp [finding?_emit]
  | some name =>
    cases ht : ts.get? name with
    | none => simp [ht, Outcome.finding?]
    | some t =>
      cases happly : t.apply v r e with
      | ok out => simp [ht, happly, finding?_emit]
      | error err => simp [ht, happly, Outcome.finding?]

/-- A declaration at a place carries the id of the option, and how a change of it is followed. -/
theorem marks_of_outcomeAt {e : Entry} {origin : Option String} {ts : Transforms} {v : Value}
    {item : Nat} {d : Declaration} (h : e.outcomeAt origin ts v item = .declaration d) :
    d.optionId = e.id ∧ d.live = e.live :=
  marks_of_declaration_mem (mem_compile_of_outcomeAt h (by simp))

/-- A font reports nothing. -/
theorem finding?_outcomeAt_of_isFont {e : Entry} (h : e.isFont = true) (origin : Option String)
    (ts : Transforms) (v : Value) (item : Nat) :
    (e.outcomeAt origin ts v item).finding? = none := by
  cases houtcome : e.outcomeAt origin ts v item with
  | declaration d => rfl
  | nothing => rfl
  | finding f =>
    rcases mem_compile (mem_compile_of_outcomeAt houtcome (by simp)) with
      ⟨-, selector, field, -, hfield⟩ | ⟨hother, -⟩
    · have hnone := finding?_compileFontField e selector v field
      rw [← hfield] at hnone
      exact hnone
    · exact absurd (h.symm.trans hother) (by simp)

/-- Only the transform that its own rule names matters for a place. -/
theorem outcomeAt_congr {e : Entry} {origin : Option String} {ts ts' : Transforms} {v : Value}
    {item : Nat} (h : ∀ r name, e.rules[item]? = some r → r.transform? = some name →
      ts'.get? name = ts.get? name) :
    e.outcomeAt origin ts' v item = e.outcomeAt origin ts v item := by
  unfold outcomeAt
  by_cases hsilent : (!e.emitsCss || v.isEmpty) = true
  · rw [if_pos hsilent, if_pos hsilent]
  by_cases hfont : e.isFont = true
  · rw [if_neg hsilent, if_neg hsilent, if_pos hfont, if_pos hfont]
  rw [if_neg hsilent, if_neg hsilent, if_neg hfont, if_neg hfont]
  cases hrule : e.rules[item]? with
  | none => rfl
  | some r =>
    show e.compileRule origin ts' v r = e.compileRule origin ts v r
    unfold compileRule
    cases hname : r.transform? with
    | none => rfl
    | some name => simp only [h r name hrule hname]

end Entry

/-! ### The places of a schema -/

namespace Schema

theorem pairwise_places (s : Schema) : s.places.Pairwise Place.Before := by
  have hitems (i j n : Nat) :
      ((List.range n).map fun item => (⟨i, j, item⟩ : Place)).Pairwise Place.Before := by
    rw [List.pairwise_map]
    exact List.pairwise_lt_range.imp fun h => Or.inr ⟨rfl, Or.inr ⟨rfl, h⟩⟩
  unfold places
  rw [List.pairwise_flatMap]
  refine ⟨fun x _ => ?_, (pairwise_zipIdx _).imp fun {x x'} hlt p hp q hq => ?_⟩
  · rw [List.pairwise_flatMap]
    refine ⟨fun y _ => hitems x.2 y.2 _, (pairwise_zipIdx _).imp fun {y y'} hlt p hp q hq => ?_⟩
    obtain ⟨i, -, rfl⟩ := List.mem_map.mp hp
    obtain ⟨j, -, rfl⟩ := List.mem_map.mp hq
    exact Or.inr ⟨rfl, Or.inl hlt⟩
  · obtain ⟨y, -, hy⟩ := List.mem_flatMap.mp hp
    obtain ⟨i, -, rfl⟩ := List.mem_map.mp hy
    obtain ⟨z, -, hz⟩ := List.mem_flatMap.mp hq
    obtain ⟨j, -, rfl⟩ := List.mem_map.mp hz
    exact Or.inl hlt

theorem entryAt?_eq_some {s : Schema} {p : Place} {x : Section × Entry} :
    s.entryAt? p = some x ↔
      s.sections[p.sectionIndex]? = some x.1 ∧ x.1.options.toList[p.optionIndex]? = some x.2 := by
  unfold entryAt?
  constructor
  · intro h
    obtain ⟨sec, hsec, hmap⟩ := Option.bind_eq_some_iff.mp h
    obtain ⟨e, he, rfl⟩ := Option.map_eq_some_iff.mp hmap
    exact ⟨hsec, he⟩
  · rintro ⟨hsec, he⟩
    rw [hsec, Option.bind_some, he]
    rfl

theorem mem_places {s : Schema} {p : Place} :
    p ∈ s.places ↔ ∃ x, s.entryAt? p = some x ∧ p.itemIndex < x.2.itemCount := by
  simp only [places, List.mem_flatMap, List.mem_map, List.mem_range, entryAt?_eq_some]
  constructor
  · rintro ⟨⟨sec, i⟩, hsec, ⟨e, j⟩, he, item, hitem, rfl⟩
    exact ⟨(sec, e), ⟨List.mem_zipIdx_iff_getElem?.mp hsec, List.mem_zipIdx_iff_getElem?.mp he⟩,
      hitem⟩
  · rintro ⟨x, ⟨hsec, he⟩, hitem⟩
    exact ⟨(x.1, p.sectionIndex), List.mem_zipIdx_iff_getElem?.mpr hsec, (x.2, p.optionIndex),
      List.mem_zipIdx_iff_getElem?.mpr he, p.itemIndex, hitem, rfl⟩

theorem outcomeAt_of_entryAt? {s : Schema} {p : Place} {sec : Section} {e : Entry}
    (h : s.entryAt? p = some (sec, e)) (values : Source) (ts : Transforms) :
    s.outcomeAt values ts p = e.outcomeAt sec.origin ts (values e.id) p.itemIndex := by
  rw [outcomeAt, h]

/-- **A compilation reads the places in order.** -/
theorem filterMap_outcomes {β : Type} {f : Outcome → Option β} (hf : f .nothing = none)
    (s : Schema) (values : Source) (ts : Transforms) :
    (s.outcomes values ts).filterMap f =
      s.places.filterMap fun p => f (s.outcomeAt values ts p) := by
  have houtcome {sec : Section} {e : Entry} {i j : Nat} (hsec : (sec, i) ∈ s.sections.zipIdx)
      (he : (e, j) ∈ sec.options.toList.zipIdx) (item : Nat) :
      s.outcomeAt values ts ⟨i, j, item⟩ = e.outcomeAt sec.origin ts (values e.id) item :=
    outcomeAt_of_entryAt? (p := ⟨i, j, item⟩) (entryAt?_eq_some.mpr
      ⟨List.mem_zipIdx_iff_getElem?.mp hsec, List.mem_zipIdx_iff_getElem?.mp he⟩) values ts
  unfold outcomes entries places
  rw [List.flatMap_assoc, List.filterMap_flatMap, List.filterMap_flatMap,
    ← flatMap_zipIdx s.sections]
  refine List.flatMap_congr fun x hx => ?_
  rw [List.flatMap_map, List.filterMap_flatMap, List.filterMap_flatMap,
    ← flatMap_zipIdx x.1.options.toList]
  refine List.flatMap_congr fun y hy => ?_
  rw [Entry.filterMap_compile hf, List.filterMap_map]
  exact List.filterMap_congr fun item _ => congrArg f (houtcome hx hy item).symm

end Schema

/-! ### A schema without one of its parts -/

/-- The index of an item once that at `i` is gone. -/
def indexWithout (i n : Nat) : Nat := if n < i then n else n - 1

theorem getElem?_eraseIdx_indexWithout {α : Type} (l : List α) {i n : Nat} (h : n ≠ i) :
    (l.eraseIdx i)[indexWithout i n]? = l[n]? := by
  rw [List.getElem?_eraseIdx]
  unfold indexWithout
  by_cases hlt : n < i
  · rw [if_pos hlt, if_pos hlt]
  · have hpred : ¬n - 1 < i := by omega
    rw [if_neg hlt, if_neg hpred, show n - 1 + 1 = n by omega]

/-- A section without one of its options. -/
def Section.removeAt (sec : Section) (j : Nat) : Section :=
  match sec.options.toList[j]? with
  | some e => (sec.remove e.id).2
  | none => sec

theorem Section.origin_removeAt (sec : Section) (j : Nat) :
    (sec.removeAt j).origin = sec.origin := by
  unfold removeAt
  split <;> rfl

theorem Section.toList_removeAt (sec : Section) (j : Nat) :
    (sec.removeAt j).options.toList = sec.options.toList.eraseIdx j := by
  unfold removeAt
  cases h : sec.options.toList[j]? with
  | none => exact (List.eraseIdx_of_length_le (List.getElem?_eq_none_iff.mp h)).symm
  | some e => exact Keyed.toList_erase_of_getElem? h

/-- A place once another section is gone. -/
def Place.withoutSection (p : Place) (i : Nat) : Place :=
  { p with sectionIndex := indexWithout i p.sectionIndex }

/-- A place once another option is gone. -/
def Place.withoutOption (p : Place) (i j : Nat) : Place :=
  if p.sectionIndex = i then { p with optionIndex := indexWithout j p.optionIndex } else p

namespace Schema

/-- A schema without one of its sections. -/
def eraseSection (s : Schema) (i : Nat) : Schema := ⟨s.sections.eraseIdx i⟩

/-- A schema without one of its options. -/
def eraseOption (s : Schema) (i j : Nat) : Schema := ⟨s.sections.modify i (·.removeAt j)⟩

theorem entryAt?_eraseSection (s : Schema) {p : Place} {i : Nat} (h : p.sectionIndex ≠ i) :
    (s.eraseSection i).entryAt? (p.withoutSection i) = s.entryAt? p := by
  show ((s.sections.eraseIdx i)[indexWithout i p.sectionIndex]?.bind _) = _
  rw [getElem?_eraseIdx_indexWithout _ h]
  rfl

theorem entryAt?_eraseOption {s : Schema} {p : Place} {i j : Nat} {sec : Section} {e : Entry}
    (h : ¬(p.sectionIndex = i ∧ p.optionIndex = j)) (hp : s.entryAt? p = some (sec, e)) :
    ∃ sec', (s.eraseOption i j).entryAt? (p.withoutOption i j) = some (sec', e) ∧
      sec'.origin = sec.origin := by
  obtain ⟨hsec, he⟩ := entryAt?_eq_some.mp hp
  by_cases hi : p.sectionIndex = i
  · have hj : p.optionIndex ≠ j := fun hj => h ⟨hi, hj⟩
    subst hi
    refine ⟨sec.removeAt j, entryAt?_eq_some.mpr ?_, sec.origin_removeAt j⟩
    rw [Place.withoutOption, if_pos rfl]
    constructor
    · show (s.sections.modify p.sectionIndex _)[p.sectionIndex]? = _
      rw [List.getElem?_modify_eq, hsec]
      rfl
    · rw [Section.toList_removeAt, getElem?_eraseIdx_indexWithout _ hj]
      exact he
  · refine ⟨sec, entryAt?_eq_some.mpr ?_, rfl⟩
    rw [Place.withoutOption, if_neg hi]
    refine ⟨?_, he⟩
    show (s.sections.modify i _)[p.sectionIndex]? = _
    rw [List.getElem?_modify_ne _ _ (Ne.symm hi), hsec]

end Schema

/-! ### What a compilation gives, place by place -/

namespace Schema

/-- The places that give a declaration. -/
def declaring (s : Schema) (values : Source) (ts : Transforms) : List Place :=
  s.places.filter fun p => (s.outcomeAt values ts p).declaration?.isSome

/-- The places that give a finding. -/
def reporting (s : Schema) (values : Source) (ts : Transforms) : List Place :=
  s.places.filter fun p => (s.outcomeAt values ts p).finding?.isSome

theorem declarations_eq_declaring (s : Schema) (values : Source) (ts : Transforms) :
    (s.compile values ts).declarations.map .declaration =
      (s.declaring values ts).map (s.outcomeAt values ts) := by
  show ((s.outcomes values ts).filterMap Outcome.declaration?).map _ = _
  rw [filterMap_outcomes rfl]
  exact map_filterMap_eq_map_filter
    (fun p d hd => (Outcome.declaration?_eq_some hd).symm) s.places

theorem findings_eq_reporting (s : Schema) (values : Source) (ts : Transforms) :
    (s.compile values ts).findings.map .finding =
      (s.reporting values ts).map (s.outcomeAt values ts) := by
  show ((s.outcomes values ts).filterMap Outcome.finding?).map _ = _
  rw [filterMap_outcomes rfl]
  exact map_filterMap_eq_map_filter
    (fun p f hf => (Outcome.finding?_eq_some hf).symm) s.places

theorem not_mem_reporting {s : Schema} {values : Source} {ts : Transforms} {p : Place}
    (h : p ∈ s.declaring values ts) : p ∉ s.reporting values ts := by
  intro hr
  have hd := (List.mem_filter.mp h).2
  have hf := (List.mem_filter.mp hr).2
  cases ho : s.outcomeAt values ts p <;>
    simp [ho, Outcome.declaration?, Outcome.finding?] at hd hf

/-- A place has the same outcome in any schema, with any values and any transforms that agree on
the option, the contributor of its section, the value of its id and the transform of its rule. -/
theorem outcomeAt_congr {s s' : Schema} {values values' : Source} {ts ts' : Transforms}
    {p p' : Place} {sec sec' : Section} {e : Entry} (hp : s.entryAt? p = some (sec, e))
    (hp' : s'.entryAt? p' = some (sec', e)) (horigin : sec'.origin = sec.origin)
    (hitem : p'.itemIndex = p.itemIndex) (hvalue : values' e.id = values e.id)
    (hts : ∀ r name, e.rules[p.itemIndex]? = some r → r.transform? = some name →
      ts'.get? name = ts.get? name) :
    s'.outcomeAt values' ts' p' = s.outcomeAt values ts p := by
  rw [outcomeAt_of_entryAt? hp, outcomeAt_of_entryAt? hp', horigin, hitem, hvalue]
  exact Entry.outcomeAt_congr hts

theorem outcomeAt_eraseSection (s : Schema) (values : Source) (ts : Transforms) {p : Place}
    {i : Nat} (h : p.sectionIndex ≠ i) :
    (s.eraseSection i).outcomeAt values ts (p.withoutSection i) = s.outcomeAt values ts p := by
  unfold outcomeAt
  rw [entryAt?_eraseSection s h]
  rfl

theorem outcomeAt_eraseOption {s : Schema} (values : Source) (ts : Transforms) {p : Place}
    {i j : Nat} {sec : Section} {e : Entry} (h : ¬(p.sectionIndex = i ∧ p.optionIndex = j))
    (hp : s.entryAt? p = some (sec, e)) :
    (s.eraseOption i j).outcomeAt values ts (p.withoutOption i j) = s.outcomeAt values ts p := by
  obtain ⟨sec', hp', horigin⟩ := entryAt?_eraseOption h hp
  have hitem : (p.withoutOption i j).itemIndex = p.itemIndex := by
    unfold Place.withoutOption
    split <;> rfl
  exact outcomeAt_congr hp hp' horigin hitem rfl fun _ _ _ _ => rfl

/-- A place of an option that is neither a font nor static gives what comes of its rule. -/
theorem outcomeAt_eq_compileRule {s : Schema} {values : Source} {ts : Transforms} {p : Place}
    {sec : Section} {e : Entry} {r : Rule} (hp : s.entryAt? p = some (sec, e))
    (hstatic : e.isStatic = false) (hfont : e.isFont = false)
    (hrule : e.rules[p.itemIndex]? = some r) (hvalue : (values e.id).isEmpty = false) :
    s.outcomeAt values ts p = e.compileRule sec.origin ts (values e.id) r := by
  have hrules : e.rules.isEmpty = false := by
    cases hr : e.rules with
    | nil => exact absurd hrule (by simp [hr])
    | cons _ _ => rfl
  have hemits : e.emitsCss = true := by
    unfold Entry.emitsCss
    split
    · rename_i hkind
      exact absurd hstatic (by simp [Entry.isStatic, hkind])
    · rename_i hkind
      exact absurd hfont (by simp [Entry.isFont, hkind])
    · rw [hrules]
      rfl
  rw [outcomeAt_of_entryAt? hp, Entry.outcomeAt_of_rule hfont hrule,
    if_neg (by simp [hemits, hvalue])]

/-- A rule is reported if its own transform does not exist or refuses the value. -/
theorem finding?_outcomeAt_isSome {s : Schema} {values : Source} {ts : Transforms} {p : Place}
    {sec : Section} {e : Entry} {r : Rule} (hp : s.entryAt? p = some (sec, e))
    (hstatic : e.isStatic = false) (hfont : e.isFont = false)
    (hrule : e.rules[p.itemIndex]? = some r) (hvalue : (values e.id).isEmpty = false) :
    (s.outcomeAt values ts p).finding?.isSome = true ↔
      ∃ name, r.transform? = some name ∧
        ∀ t, ts.get? name = some t → ∃ err, t.apply (values e.id) r e = .error err := by
  rw [outcomeAt_eq_compileRule hp hstatic hfont hrule hvalue, Entry.finding?_compileRule_isSome]

end Schema

/-- **Every declaration and every finding has a place of its own.**  In reading order, the
declarations are what the declaring places give and the findings what the reporting ones give.  What
comes of a place is decided by its option, the contributor of its section, the value and the
transform of its own rule, so a rule that is skipped, and an option or a section that is taken out,
changes nothing elsewhere. -/
theorem compile_places (s : Schema) (values : Source) (ts : Transforms) :
    ((s.compile values ts).declarations.map .declaration =
        (s.declaring values ts).map (s.outcomeAt values ts) ∧
      (s.compile values ts).findings.map .finding =
        (s.reporting values ts).map (s.outcomeAt values ts)) ∧
    ((s.declaring values ts).Pairwise Place.Before ∧
      (s.reporting values ts).Pairwise Place.Before ∧
      ∀ p ∈ s.declaring values ts, p ∉ s.reporting values ts) ∧
    (∀ p, p ∈ s.declaring values ts ∨ p ∈ s.reporting values ts →
      ∃ x, s.entryAt? p = some x ∧ p.itemIndex < x.2.itemCount) ∧
    ∀ p sec e, s.entryAt? p = some (sec, e) →
      (e.isStatic = true → s.outcomeAt values ts p = .nothing) ∧
      (e.isFont = true → (s.outcomeAt values ts p).finding? = none) ∧
      (∀ d, s.outcomeAt values ts p = .declaration d → d.optionId = e.id ∧ d.live = e.live) ∧
      -- only the rule whose own transform fails is skipped and reported
      (∀ r, e.isStatic = false → e.isFont = false → e.rules[p.itemIndex]? = some r →
        (values e.id).isEmpty = false →
        ((s.outcomeAt values ts p).finding?.isSome = true ↔
          ∃ name, r.transform? = some name ∧
            ∀ t, ts.get? name = some t → ∃ err, t.apply (values e.id) r e = .error err)) ∧
      (∀ (s' : Schema) (values' : Source) (ts' : Transforms) (p' : Place) (sec' : Section),
        s'.entryAt? p' = some (sec', e) → sec'.origin = sec.origin →
        p'.itemIndex = p.itemIndex → values' e.id = values e.id →
        (∀ r name, e.rules[p.itemIndex]? = some r → r.transform? = some name →
          ts'.get? name = ts.get? name) →
        s'.outcomeAt values' ts' p' = s.outcomeAt values ts p) ∧
      (∀ i, p.sectionIndex ≠ i →
        (s.eraseSection i).outcomeAt values ts (p.withoutSection i) =
          s.outcomeAt values ts p) ∧
      ∀ i j, ¬(p.sectionIndex = i ∧ p.optionIndex = j) →
        (s.eraseOption i j).outcomeAt values ts (p.withoutOption i j) =
          s.outcomeAt values ts p := by
  refine ⟨⟨s.declarations_eq_declaring values ts, s.findings_eq_reporting values ts⟩,
    ⟨s.pairwise_places.sublist List.filter_sublist, s.pairwise_places.sublist List.filter_sublist,
      fun p => Schema.not_mem_reporting⟩, fun p hp => ?_, fun p sec e hp =>
    ⟨fun hstatic => ?_, fun hfont => ?_, fun d hd => ?_, ?_, ?_, ?_, ?_⟩⟩
  · rcases hp with hp | hp <;> exact Schema.mem_places.mp (List.mem_filter.mp hp).1
  · rw [Schema.outcomeAt_of_entryAt? hp, Entry.outcomeAt_of_isStatic hstatic]
  · rw [Schema.outcomeAt_of_entryAt? hp, Entry.finding?_outcomeAt_of_isFont hfont]
  · rw [Schema.outcomeAt_of_entryAt? hp] at hd
    exact Entry.marks_of_outcomeAt hd
  · exact fun r hstatic hfont => Schema.finding?_outcomeAt_isSome hp hstatic hfont
  · exact fun s' values' ts' p' sec' hp' => Schema.outcomeAt_congr hp hp'
  · exact fun i hi => Schema.outcomeAt_eraseSection s values ts hi
  · exact fun i j hij => Schema.outcomeAt_eraseOption values ts hij hp

/-! ### A rule that is skipped -/

namespace Sample

/-- An accent whose first rule names a transform that does not exist, and a font. -/
def skipping : Schema where
  sections :=
    [{ id := "colors"
       origin := some "theme"
       options := Keyed.ofList
        [{ id := "note", kind := some .html },
         { id := "accent"
           rules := [{ property := "color", selector := "a", callback := some "brighten" },
             { property := "background", selector := "body" }] }] },
     { id := "fonts"
       options := Keyed.ofList [{ id := "heading", kind := some .font, selector := some "h1" }] }]

/-- Every option is set to the same text. -/
def red : Source := Source.constant (.text "red")

theorem declaring_skipping :
    skipping.declaring red Transforms.builtins = [⟨0, 1, 1⟩, ⟨1, 0, 0⟩] := by
  decide +kernel

theorem reporting_skipping : skipping.reporting red Transforms.builtins = [⟨0, 1, 0⟩] := by
  decide +kernel

end Sample

/-- The second rule of the accent and the family of the font are declared, the first rule of the
accent is reported, and the font stays what it is if the section before it goes. -/
theorem compile_places_skipping :
    let outcome := Sample.skipping.outcomeAt Sample.red Transforms.builtins
    (Sample.skipping.compile Sample.red Transforms.builtins).declarations.map .declaration =
      [outcome ⟨0, 1, 1⟩, outcome ⟨1, 0, 0⟩] ∧
    (Sample.skipping.compile Sample.red Transforms.builtins).findings.map .finding =
      [outcome ⟨0, 1, 0⟩] ∧
    (Sample.skipping.eraseSection 0).outcomeAt Sample.red Transforms.builtins ⟨0, 0, 0⟩ =
      outcome ⟨1, 0, 0⟩ := by
  obtain ⟨⟨hdeclarations, hfindings⟩, -, -, hplace⟩ :=
    compile_places Sample.skipping Sample.red Transforms.builtins
  rw [Sample.declaring_skipping] at hdeclarations
  rw [Sample.reporting_skipping] at hfindings
  have hfont := hplace ⟨1, 0, 0⟩ _ _ rfl
  exact ⟨hdeclarations, hfindings, hfont.2.2.2.2.2.1 0 (by decide)⟩

end ThemeOptions
