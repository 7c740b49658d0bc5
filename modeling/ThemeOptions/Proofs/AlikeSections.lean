import ThemeOptions.Proofs.CleanContributions
import ThemeOptions.Proofs.Collections
import ThemeOptions.Proofs.Reports
import ThemeOptions.Proofs.SilentRules

/-!
# Sections that count as alike

A section that is passed over in silence says the same as the registered one, except that its
options may stand in another order.  Read by option id the two give the same outcomes
(`Section.outcomesOf_eq_of_sameContent`); the list of ids says in which order these are put
together (`Schema.outcomes_eq`).

So one may stand for the other up to that order, and altogether if the order is the same
(`Registry.exchange_alike`).
-/

open scoped List

namespace ThemeOptions

/-! ### Options that say the same -/

/-- Transforms that give the same for options which say the same. -/
def Transforms.Impartial (ts : Transforms) : Prop :=
  ∀ name t, ts.get? name = some t → ∀ v r a b, Entry.same a b = true → t.apply v r a = t.apply v r b

/-- The built-in transforms do not look at the option. -/
theorem Transforms.builtins_impartial : Transforms.builtins.Impartial := by
  intro name t ht v r a b _
  obtain ⟨builtin, -, rfl⟩ := Transforms.builtins_get? ht
  rfl

/-- A transform that gives the first choice of an option is not: the order of choices does not count
when options are compared. -/
theorem Transforms.not_impartial_firstChoice :
    ¬Impartial ⟨Keyed.ofList [("first", .custom fun _ r e =>
      .ok ⟨r.property, .text ((e.choices.keys.head?).getD "")⟩)]⟩ := by
  intro h
  have hsame := h "first" _ rfl .unset ⟨"float", "img", none, none⟩
    { id := "side", choices := Keyed.ofList [("left", "Left"), ("right", "Right")] }
    { id := "side", choices := Keyed.ofList [("right", "Right"), ("left", "Left")] }
    (by decide +kernel)
  have hvalue := congrArg (fun out => out.toOption.bind (·.value.text?)) hsame
  exact absurd hvalue (by decide +kernel)

theorem FontTable.same_getD_of_same {s t : Option (FontTable FontFieldSpec)}
    (h : sameOption FontTable.same s t = true) (f : FontField) :
    sameOption FontFieldSpec.same (s.getD empty f) (t.getD empty f) = true := by
  cases s with
  | none =>
    cases t with
    | none => rfl
    | some t => cases h
  | some s =>
    cases t with
    | none => cases h
    | some t => exact List.all_eq_true.mp h f (FontField.mem_all f)

namespace Entry

variable {a b : Entry}

theorem parts_of_same (h : a.same b = true) :
    a.id = b.id ∧ a.kind = b.kind ∧ a.rules = b.rules ∧ a.live = b.live ∧
      a.selector = b.selector := by
  simp only [same, Bool.and_eq_true, beq_iff_eq] at h
  tauto

theorem fontField_of_same (h : a.same b = true) (f : FontField) :
    a.enables f = b.enables f ∧ a.fontUnit f = b.fontUnit f := by
  have hspecs : sameOption FontTable.same a.fieldSpecs b.fieldSpecs = true := by
    simp only [same, Bool.and_eq_true] at h
    tauto
  have hfield : sameOption FontFieldSpec.same (a.fontFields f) (b.fontFields f) = true :=
    FontTable.same_getD_of_same hspecs f
  unfold enables fontUnit
  cases ha : a.fontFields f with
  | none =>
    cases hb : b.fontFields f with
    | none => exact ⟨rfl, rfl⟩
    | some y => simp [ha, hb, sameOption] at hfield
  | some x =>
    cases hb : b.fontFields f with
    | none => simp [ha, hb, sameOption] at hfield
    | some y =>
      simp only [ha, hb, sameOption, FontFieldSpec.same, Bool.and_eq_true, beq_iff_eq] at hfield
      obtain ⟨⟨⟨⟨henabled, -⟩, -⟩, -⟩, hunit⟩ := hfield
      simp only [henabled, hunit, Option.bind_some, and_self]

section

variable {ts : Transforms} {v : Value}

theorem emit_eq_of_same (h : a.same b = true) (r : Rule) (property : String) :
    a.emit r property v = b.emit r property v := by
  obtain ⟨hid, -, -, hlive, -⟩ := parts_of_same h
  unfold emit declare
  rw [hid, hlive]

theorem compileRule_eq_of_same (h : a.same b = true) (hts : ts.Impartial)
    (origin : Option String) (r : Rule) :
    a.compileRule origin ts v r = b.compileRule origin ts v r := by
  have hid := (parts_of_same h).1
  unfold compileRule
  cases r.transform? with
  | none => exact emit_eq_of_same h r r.property
  | some name =>
    dsimp only
    cases ht : ts.get? name with
    | none => rw [hid]
    | some t =>
      have happly := hts name t ht v r a b h
      simp only [happly, hid, emit_eq_of_same h]

theorem compileFontField_eq_of_same (h : a.same b = true) (selector : String) (f : FontField) :
    a.compileFontField selector v f = b.compileFontField selector v f := by
  obtain ⟨hid, -, -, hlive, -⟩ := parts_of_same h
  obtain ⟨henables, hunit⟩ := fontField_of_same h f
  unfold compileFontField declare
  rw [hid, hlive, henables, hunit]

/-- Options that say the same come to the same, if the transforms see no difference either. -/
theorem compile_eq_of_same (h : a.same b = true) (hts : ts.Impartial) (origin : Option String) :
    a.compile origin ts v = b.compile origin ts v := by
  obtain ⟨-, hkind, hrules, -, hselector⟩ := parts_of_same h
  have hrule : a.compileRule origin ts v = b.compileRule origin ts v :=
    funext fun r => compileRule_eq_of_same h hts origin r
  have hfield (selector : String) : a.compileFontField selector v = b.compileFontField selector v :=
    funext fun f => compileFontField_eq_of_same h selector f
  unfold compile emitsCss isFont fontSelector?
  simp only [hkind, hrules, hselector, hrule, hfield]

end

end Entry

/-! ### Sections that say the same -/

namespace Section

variable {a b : Section}

/-- What comes of the option with an id. -/
def outcomesOf (s : Section) (values : Source) (ts : Transforms) (id : String) : List Outcome :=
  match s.option? id with
  | some e => e.compile s.origin ts (values id)
  | none => []

/-- The declarations of the option with an id carry that id. -/
theorem optionId_of_mem_outcomesOf {s : Section} {values : Source} {ts : Transforms} {id : String}
    {d : Declaration} (h : .declaration d ∈ s.outcomesOf values ts id) : d.optionId = id := by
  unfold outcomesOf at h
  split at h
  · rename_i e he
    rw [(Entry.marks_of_declaration_mem h).1]
    exact (Keyed.find?_eq_some_iff.mp he).2
  · exact absurd h (by simp)

/-- What comes of a section is what comes of its options by id. -/
theorem flatMap_compile (s : Section) (values : Source) (ts : Transforms) :
    (s.options.toList.flatMap fun e => e.compile s.origin ts (values e.id)) =
      s.options.keys.flatMap (s.outcomesOf values ts) := by
  unfold Keyed.keys
  rw [List.flatMap_map]
  refine List.flatMap_congr fun e he => ?_
  rw [outcomesOf, option?, Keyed.find?_eq_some_iff.mpr ⟨he, rfl⟩]

theorem parts_of_sameContent (h : a.sameContent b = true) :
    a.priority = b.priority ∧ a.options.agrees Entry.same b.options = true := by
  simp only [sameContent, Bool.and_eq_true, beq_iff_eq] at h
  tauto

theorem outcomesOf_eq_of_sameContent (h : a.sameContent b = true) (horigin : a.origin = b.origin)
    {ts : Transforms} (hts : ts.Impartial) (values : Source) :
    a.outcomesOf values ts = b.outcomesOf values ts := by
  funext id
  unfold outcomesOf option?
  rcases Keyed.find?_of_agrees (parts_of_sameContent h).2 id with ⟨ha, hb⟩ | ⟨x, y, ha, hb, hsame⟩
  · rw [ha, hb]
  · rw [ha, hb, horigin]
    exact Entry.compile_eq_of_same hsame hts b.origin

end Section

/-! ### One section in place of another -/

/-- The registry with what a section says in place of the one under its id, whose contributor
stays. -/
def Registry.exchange (r : Registry) (s : Section) : Registry :=
  { r with
    sections := r.sections.modify s.id (fun old => { s with id := old.id, origin := old.origin })
      fun _ => rfl }

/-- Of the items that come from distinct keys, those with one key come from it alone. -/
theorem filter_flatMap_of_nodup {β : Type} {keys : List String} (hkeys : keys.Nodup)
    {f : String → List β} {key : β → String} (hf : ∀ k, ∀ x ∈ f k, key x = k) (id : String) :
    (keys.flatMap f).filter (key · == id) = if id ∈ keys then f id else [] := by
  have hself : (f id).filter (key · == id) = f id :=
    List.filter_eq_self.mpr fun x hx => beq_iff_eq.mpr (hf id x hx)
  have hother {k : String} (hk : k ≠ id) : (f k).filter (key · == id) = [] :=
    List.filter_eq_nil_iff.mpr fun x hx e => hk (hf k x hx ▸ beq_iff_eq.mp e)
  induction keys with
  | nil => simp
  | cons k keys ih =>
    rw [List.nodup_cons] at hkeys
    rw [List.flatMap_cons, List.filter_append, ih hkeys.2]
    by_cases hk : k = id
    · subst hk
      simp [hself, hkeys.1]
    · simp [hother hk, Ne.symm hk]

namespace Schema

variable {values : Source} {ts : Transforms}

theorem ids_eq (s : Schema) : s.entries.map (·.2.id) = s.sections.flatMap (·.options.keys) := by
  unfold entries Keyed.keys
  rw [List.map_flatMap]
  simp only [List.map_map, Function.comp_def]

theorem outcomes_eq (s : Schema) :
    s.outcomes values ts =
      s.sections.flatMap fun sec => sec.options.keys.flatMap (sec.outcomesOf values ts) := by
  unfold outcomes entries
  rw [List.flatMap_assoc]
  refine List.flatMap_congr fun sec _ => ?_
  rw [List.flatMap_map, ← sec.flatMap_compile]

end Schema

namespace Registry

variable {r : Registry} {s old : Section}

theorem nodup_ids_schema (r : Registry) : (r.schema.sections.map Section.id).Nodup :=
  ((List.mergeSort_perm _ _).map Section.id).nodup_iff.mpr r.sections.nodup_keys

/-- An exchange changes a schema at one place, if the priority is the same. -/
theorem schema_exchange (hold : r.section? s.id = some old)
    (hpriority : old.priority = s.priority) :
    ∃ l₁ l₂, r.schema.sections = l₁ ++ old :: l₂ ∧
      (r.exchange s).schema.sections = l₁ ++ s.withOrigin old.origin :: l₂ := by
  let put := fun a : Section =>
    if a.id == s.id then { s with id := a.id, origin := a.origin } else a
  obtain ⟨hmem, hid⟩ := Keyed.find?_eq_some_iff.mp hold
  have hputs : ∀ a ∈ r.sections.toList, (put a).priority = a.priority := by
    intro a ha
    by_cases hs : a.id = s.id
    · have hsome : r.section? s.id = some a := Keyed.find?_eq_some_iff.mpr ⟨ha, hs⟩
      obtain rfl : old = a := Option.some.inj (hold.symm.trans hsome)
      simp [put, hs, hpriority]
    · simp [put, hs]
  have hschema : (r.exchange s).schema.sections = r.schema.sections.map put := by
    refine (List.map_mergeSort fun a ha b hb => ?_).symm
    rw [hputs a ha, hputs b hb]
  have hlisted : old ∈ r.schema.sections := List.mem_mergeSort.mpr hmem
  obtain ⟨l₁, l₂, hl⟩ := List.append_of_mem hlisted
  have hnodup := r.nodup_ids_schema
  rw [hl, List.map_append, List.map_cons, List.nodup_middle, List.nodup_cons, ← List.map_append]
    at hnodup
  have hkept : ∀ a ∈ l₁ ++ l₂, put a = a := by
    intro a ha
    have hne : a.id ≠ s.id := fun e => hnodup.1 (hid ▸ e ▸ List.mem_map_of_mem ha)
    simp [put, hne]
  have hmap {l : List Section} (h : ∀ a ∈ l, put a = a) : l.map put = l :=
    (List.map_congr_left h).trans (List.map_id' l)
  have hput : put old = s.withOrigin old.origin := by simp [put, hid, Section.withOrigin]
  refine ⟨l₁, l₂, hl, ?_⟩
  rw [hschema, hl, List.map_append, List.map_cons, hput, hmap fun a ha => hkept a (by simp [ha]),
    hmap fun a ha => hkept a (by simp [ha])]

section

variable (hold : r.section? s.id = some old) (hsame : old.sameContent s = true)
include hold hsame

/-- An exchange of alike sections keeps the option ids, and their order exactly if both sections
have them in the same order. -/
theorem ids_exchange :
    (r.exchange s).schema.entries.map (·.2.id) ~ r.schema.entries.map (·.2.id) ∧
    ((r.exchange s).schema.entries.map (·.2.id) = r.schema.entries.map (·.2.id) ↔
      s.options.keys = old.options.keys) := by
  obtain ⟨hpriority, hagrees⟩ := Section.parts_of_sameContent hsame
  obtain ⟨l₁, l₂, hl, hl'⟩ := schema_exchange hold hpriority
  rw [Schema.ids_eq, Schema.ids_eq, hl, hl', List.flatMap_append, List.flatMap_append,
    List.flatMap_cons, List.flatMap_cons]
  refine ⟨?_, ?_⟩
  · exact ((Keyed.keys_perm_of_agrees hagrees).symm.append_right _).append_left _
  · rw [List.append_cancel_left_eq, List.append_cancel_right_eq]
    rfl

variable {values : Source} {ts : Transforms} (hts : ts.Impartial)
include hts

/-- What comes of alike sections is put together from the same outcomes, which the ids of the
options arrange. -/
theorem outcomes_exchange (values : Source) :
    ∃ o₁ o₂ f, (∀ id d, .declaration d ∈ f id → d.optionId = id) ∧
      r.schema.outcomes values ts = o₁ ++ (old.options.keys.flatMap f ++ o₂) ∧
      (r.exchange s).schema.outcomes values ts = o₁ ++ (s.options.keys.flatMap f ++ o₂) := by
  obtain ⟨hpriority, -⟩ := Section.parts_of_sameContent hsame
  obtain ⟨l₁, l₂, hl, hl'⟩ := schema_exchange hold hpriority
  have hsame' : old.sameContent (s.withOrigin old.origin) = true := hsame
  have hsection : old.outcomesOf values ts = (s.withOrigin old.origin).outcomesOf values ts :=
    Section.outcomesOf_eq_of_sameContent hsame' rfl hts values
  let all := fun sec : Section => sec.options.keys.flatMap (sec.outcomesOf values ts)
  refine ⟨l₁.flatMap all, l₂.flatMap all, old.outcomesOf values ts,
    fun id d hd => Section.optionId_of_mem_outcomesOf hd, ?_, ?_⟩
  · rw [Schema.outcomes_eq, hl, List.flatMap_append, List.flatMap_cons]
  · rw [Schema.outcomes_eq, hl', List.flatMap_append, List.flatMap_cons, hsection]
    rfl

/-- Each option has the same declarations after an exchange of alike sections. -/
theorem filter_declarations_exchange (id : String) :
    ((r.exchange s).schema.compile values ts).declarations.filter (·.optionId == id) =
      (r.schema.compile values ts).declarations.filter (·.optionId == id) := by
  obtain ⟨-, hagrees⟩ := Section.parts_of_sameContent hsame
  obtain ⟨o₁, o₂, f, hf, houtcomes, houtcomes'⟩ :=
    outcomes_exchange hold hsame hts values
  have hids : ∀ k, ∀ d ∈ (f k).filterMap Outcome.declaration?, d.optionId = k := by
    intro k d hd
    obtain ⟨o, ho, hd⟩ := List.mem_filterMap.mp hd
    exact hf k d (Outcome.declaration?_eq_some hd ▸ ho)
  have hfilter (options : Keyed Entry Entry.id) :
      ((options.keys.flatMap f).filterMap Outcome.declaration?).filter (·.optionId == id) =
        if id ∈ options.keys then (f id).filterMap Outcome.declaration? else [] := by
    rw [List.filterMap_flatMap]
    exact filter_flatMap_of_nodup options.nodup_keys hids id
  have hmem : id ∈ s.options.keys ↔ id ∈ old.options.keys :=
    (Keyed.keys_perm_of_agrees hagrees).mem_iff.symm
  have hdeclarations {o : List Outcome} :
      (Compiled.ofOutcomes o).declarations = o.filterMap Outcome.declaration? := rfl
  simp only [Schema.compile, hdeclarations, houtcomes, houtcomes', List.filterMap_append,
    List.filter_append, hfilter, hmem]

end

/-- **What is passed over in silence is interchangeable, up to the order of the options.**  A
section that a registration neither adds nor rejects stands beside a registered one under its id.
Wherever that one is registered, putting the new content in its place keeps the outcomes and the
option ids up to their order, and the declarations of each option altogether.  It changes nothing
exactly if both sections have their options in the same order. -/
theorem exchange_alike {origin : Option String} {c : Contribution} (hs : s ∈ c.sections.toList)
    (hadded : s.id ∉ (r.register origin c).1.added)
    (hconflicts : ∀ k ∈ (r.register origin c).1.conflicts, k.sectionId ≠ s.id) :
    ∃ old, r.section? s.id = some old ∧ ∀ q : Registry, q.section? s.id = some old →
      let schema := q.schema
      let exchanged := (q.exchange s).schema
      exchanged.entries.map (·.2.id) ~ schema.entries.map (·.2.id) ∧
      (exchanged.entries.map (·.2.id) = schema.entries.map (·.2.id) ↔
        s.options.keys = old.options.keys) ∧
      ∀ (values : Source) (ts : Transforms), ts.Impartial →
        exchanged.outcomes values ts ~ schema.outcomes values ts ∧
        (∀ id, (exchanged.compile values ts).declarations.filter (·.optionId == id) =
          (schema.compile values ts).declarations.filter (·.optionId == id)) ∧
        (s.options.keys = old.options.keys →
          exchanged.compile values ts = schema.compile values ts) := by
  obtain ⟨old, hold, hsame⟩ := exists_sameContent_of_unreported hs hadded hconflicts
  refine ⟨old, hold, fun q hq => ?_⟩
  obtain ⟨hids, horder⟩ := ids_exchange hq hsame
  refine ⟨hids, horder, fun values ts hts => ?_⟩
  obtain ⟨o₁, o₂, f, -, houtcomes, houtcomes'⟩ := outcomes_exchange hq hsame hts values
  refine ⟨?_, filter_declarations_exchange hq hsame hts, fun hkeys => ?_⟩
  · have hperm := Keyed.keys_perm_of_agrees (Section.parts_of_sameContent hsame).2
    rw [houtcomes, houtcomes']
    exact ((hperm.symm.flatMap_right f).append_right o₂).append_left o₁
  · rw [Schema.compile, Schema.compile, houtcomes, houtcomes', hkeys]

end Registry

/-! ### Two colors in either order -/

namespace Sample

/-- The color of links. -/
def links : Entry := { id := "links", kind := some .color, rules := [⟨"color", "a", none, none⟩] }

/-- The color of the page. -/
def page : Entry :=
  { id := "page", kind := some .color, rules := [⟨"background", "body", none, none⟩] }

def colors (options : List Entry) : Section :=
  { id := "colors", title := some "Colors", options := Keyed.ofList options }

/-- A registry with the links before the page. -/
def linksFirst : Registry :=
  (({} : Registry).register (some "core") ⟨Keyed.ofList [colors [links, page]]⟩).2

/-- The page before the links. -/
def pageFirst : Contribution := ⟨Keyed.ofList [colors [page, links]]⟩

/-- The declarations of a schema with every option set to the same color. -/
def reds (s : Schema) : List Declaration :=
  (s.compile (Source.constant (.text "red")) Transforms.builtins).declarations

theorem schema_linksFirst : linksFirst.schema = ⟨linksFirst.sections.toList⟩ :=
  congrArg Schema.mk (List.mergeSort_singleton _)

theorem schema_exchange_linksFirst : (linksFirst.exchange (colors [page, links])).schema =
    ⟨(linksFirst.exchange (colors [page, links])).sections.toList⟩ :=
  congrArg Schema.mk (List.mergeSort_singleton _)

end Sample

/-- Colors in another order are passed over in silence, and they give other declarations. -/
theorem reordered_but_alike :
    (Sample.linksFirst.register (some "child") Sample.pageFirst).1 = {} ∧
    Sample.reds Sample.linksFirst.schema =
      [⟨"a", "color", "red", "links", false⟩, ⟨"body", "background", "red", "page", false⟩] ∧
    Sample.reds (Sample.linksFirst.exchange (Sample.colors [Sample.page, Sample.links])).schema =
      [⟨"body", "background", "red", "page", false⟩, ⟨"a", "color", "red", "links", false⟩] := by
  rw [Sample.schema_linksFirst, Sample.schema_exchange_linksFirst]
  decide +kernel

theorem exchange_alike_colors :
    Sample.colors [Sample.page, Sample.links] ∈ Sample.pageFirst.sections.toList ∧
    (Sample.linksFirst.register (some "child") Sample.pageFirst).1 = {} ∧
    ∀ id,
      (Sample.reds (Sample.linksFirst.exchange
          (Sample.colors [Sample.page, Sample.links])).schema).filter (·.optionId == id) =
        (Sample.reds Sample.linksFirst.schema).filter (·.optionId == id) := by
  have hmem : Sample.colors [Sample.page, Sample.links] ∈ Sample.pageFirst.sections.toList :=
    List.mem_singleton.mpr rfl
  have hreport : (Sample.linksFirst.register (some "child") Sample.pageFirst).1 = {} := by
    decide +kernel
  obtain ⟨old, hold, halike⟩ := Registry.exchange_alike hmem
    (show _ ∉ (Sample.linksFirst.register (some "child") Sample.pageFirst).1.added by
      rw [hreport]; simp)
    (show ∀ k ∈ (Sample.linksFirst.register (some "child") Sample.pageFirst).1.conflicts, _ by
      rw [hreport]; simp)
  have hcolors := (halike Sample.linksFirst hold).2.2 (Source.constant (.text "red"))
    Transforms.builtins Transforms.builtins_impartial
  exact ⟨hmem, hreport, hcolors.2.1⟩

end ThemeOptions
