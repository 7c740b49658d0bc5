import Mathlib.Data.List.Flatten
import ThemeOptions.Compile

/-!
# Declarations of a schema

The declarations of a compilation are those of the options one after the other
(`declarations_compile`), so fewer sections give fewer declarations in the same order.  Every
declaration carries the id of its option.
-/

open scoped List

namespace ThemeOptions

theorem Outcome.declaration?_eq_some {o : Outcome} {d : Declaration}
    (h : o.declaration? = some d) : o = .declaration d := by
  cases o with
  | declaration d' => exact congrArg _ (Option.some.inj h)
  | finding f => exact absurd h (by simp [declaration?])
  | nothing => exact absurd h (by simp [declaration?])

theorem Outcome.finding?_eq_some {o : Outcome} {f : Finding}
    (h : o.finding? = some f) : o = .finding f := by
  cases o with
  | declaration d => exact absurd h (by simp [finding?])
  | finding f' => exact congrArg _ (Option.some.inj h)
  | nothing => exact absurd h (by simp [finding?])

/-- The declarations of one option. -/
def Entry.declarations (e : Entry) (origin : Option String) (ts : Transforms) (v : Value) :
    List Declaration :=
  (e.compile origin ts v).filterMap Outcome.declaration?

namespace Entry

section

variable {e : Entry} {r : Rule} {v : Value} {d : Declaration}

theorem emit_eq_declaration {property : String} (h : e.emit r property v = .declaration d) :
    Text.blank property = false ∧ v.isEmpty = false ∧
      d = ⟨Text.trim r.selector, Text.trim property, v.render r.unitText, e.id, e.live⟩ := by
  unfold emit at h
  split at h
  · exact absurd h (by simp)
  · rename_i hfilled
    rw [Bool.or_eq_true, not_or] at hfilled
    exact ⟨by simpa using hfilled.1, by simpa using hfilled.2, (Outcome.declaration.inj h).symm⟩

/-- What a transform makes of a rule: nothing or a declaration, or a finding if it refuses the
value. -/
def transformed (e : Entry) (origin : Option String) (name : String) (t : Transform) (v : Value)
    (r : Rule) : Outcome :=
  match t.apply v r e with
  | .ok out => e.emit r out.property out.value
  | .error err => .finding ⟨.transformFailed, origin, e.id,
      "transform '" ++ name ++ "' failed for '" ++ e.id ++ "': " ++ err.message⟩

theorem transformed_cases (e : Entry) (origin : Option String) (name : String) (t : Transform)
    (v : Value) (r : Rule) :
    (∃ d, e.transformed origin name t v r = .declaration d) ∨
      (∃ f, e.transformed origin name t v r = .finding f ∧ f.kind = .transformFailed) ∨
      e.transformed origin name t v r = .nothing := by
  unfold transformed
  split
  · unfold emit
    split
    · exact Or.inr (Or.inr rfl)
    · exact Or.inl ⟨_, rfl⟩
  · exact Or.inr (Or.inl ⟨_, rfl, rfl⟩)

theorem compileRule_of_get? {name : String} {ts : Transforms} {t : Transform}
    (hname : r.transform? = some name) (ht : ts.get? name = some t) (e : Entry)
    (origin : Option String) (v : Value) :
    e.compileRule origin ts v r = e.transformed origin name t v r := by
  cases happly : t.apply v r e with
  | ok out => simp only [compileRule, transformed, hname, ht, happly]
  | error err => simp only [compileRule, transformed, hname, ht, happly]

/-- The property and the value of a declaration are those of the rule, or what its transform makes
of them. -/
theorem compileRule_eq_declaration {origin : Option String} {ts : Transforms}
    (h : e.compileRule origin ts v r = .declaration d) :
    ∃ property v',
      (r.transform? = none ∧ property = r.property ∧ v' = v ∨
        ∃ name t, r.transform? = some name ∧ ts.get? name = some t ∧
          t.apply v r e = .ok ⟨property, v'⟩) ∧
      Text.blank property = false ∧ v'.isEmpty = false ∧
      d = ⟨Text.trim r.selector, Text.trim property, v'.render r.unitText, e.id, e.live⟩ := by
  unfold compileRule at h
  split at h
  · rename_i hname
    exact ⟨r.property, v, Or.inl ⟨hname, rfl, rfl⟩, emit_eq_declaration h⟩
  · rename_i name hname
    split at h
    · exact absurd h (by simp)
    · rename_i t ht
      split at h
      · rename_i out hout
        exact ⟨out.property, out.value, Or.inr ⟨name, t, hname, ht, hout⟩, emit_eq_declaration h⟩
      · exact absurd h (by simp)

/-- A font field is held by a text, as the family, or by a font. -/
theorem held_cases {fv : Value} {f : FontField} (h : fontFieldsOf v f = some fv) :
    (fv = v ∧ f = .fontFamily ∧ ∃ t, v = .text t) ∨
      ∃ fields, v = .font fields ∧ fields f = some fv := by
  cases v with
  | text t =>
    have hset : FontTable.empty.set .fontFamily (Value.text t) f = some fv := h
    by_cases hf : f = .fontFamily
    · rw [hf, FontTable.set_self] at hset
      exact Or.inl ⟨(Option.some.inj hset).symm, hf, t, rfl⟩
    · rw [FontTable.set_of_ne _ _ hf] at hset
      exact absurd hset (by simp [FontTable.empty])
  | font fields => exact Or.inr ⟨fields, rfl, h⟩
  | _ => exact absurd h (by simp [fontFieldsOf, FontTable.empty])

theorem compileFontField_eq_declaration {selector : String} {f : FontField}
    (h : e.compileFontField selector v f = .declaration d) :
    ∃ fv, fontFieldsOf v f = some fv ∧ fv.isEmpty = false ∧
      d = ⟨Text.trim selector, f.name, fv.render (e.fontUnit f), e.id, e.live⟩ := by
  unfold compileFontField at h
  split at h
  · exact absurd h (by simp)
  · rename_i fv hfield
    split at h
    · exact absurd h (by simp)
    · rename_i hfilled
      rw [Bool.or_eq_true, not_or] at hfilled
      exact ⟨fv, hfield, by simpa using hfilled.2, (Outcome.declaration.inj h).symm⟩

theorem emitsCss_of_isStatic (h : e.isStatic = true) : e.emitsCss = false := by
  have hkind : e.kind = some .html := by simpa [isStatic] using h
  rw [emitsCss, hkind]

/-- What comes of an option comes of one of its font fields or of one of its rules. -/
theorem mem_compile {origin : Option String} {ts : Transforms} {o : Outcome}
    (h : o ∈ e.compile origin ts v) :
    (e.isFont = true ∧ ∃ selector f, e.fontSelector? = some selector ∧
      o = e.compileFontField selector v f) ∨
    (e.isFont = false ∧ ∃ r ∈ e.rules, o = e.compileRule origin ts v r) := by
  unfold compile at h
  split at h
  · exact absurd h (by simp)
  · split at h
    · rename_i hfont
      split at h
      · exact absurd h (by simp)
      · rename_i selector hselector
        obtain ⟨f, -, rfl⟩ := List.mem_map.mp h
        exact Or.inl ⟨hfont, selector, f, hselector, rfl⟩
    · rename_i hfont
      obtain ⟨r, hr, rfl⟩ := List.mem_map.mp h
      exact Or.inr ⟨by simpa using hfont, r, hr, rfl⟩

theorem mem_declarations {origin : Option String} {ts : Transforms} :
    d ∈ e.declarations origin ts v ↔ .declaration d ∈ e.compile origin ts v := by
  unfold declarations
  rw [List.mem_filterMap]
  constructor
  · rintro ⟨o, ho, hd⟩
    rwa [Outcome.declaration?_eq_some hd] at ho
  · exact fun h => ⟨_, h, rfl⟩

/-- A declaration carries the id of its option, and how a change of it is followed. -/
theorem marks_of_declaration_mem {origin : Option String} {ts : Transforms}
    (h : .declaration d ∈ e.compile origin ts v) : d.optionId = e.id ∧ d.live = e.live := by
  rcases mem_compile h with ⟨-, selector, f, -, hd⟩ | ⟨-, r, -, hd⟩
  · obtain ⟨fv, -, -, rfl⟩ := compileFontField_eq_declaration hd.symm
    exact ⟨rfl, rfl⟩
  · obtain ⟨property, v', -, -, -, rfl⟩ := compileRule_eq_declaration hd.symm
    exact ⟨rfl, rfl⟩

theorem optionId_of_mem_declarations {origin : Option String} {ts : Transforms}
    (h : d ∈ e.declarations origin ts v) : d.optionId = e.id :=
  (marks_of_declaration_mem (mem_declarations.mp h)).1

end

end Entry

namespace Schema

theorem declarations_compile (s : Schema) (values : Source) (ts : Transforms) :
    (s.compile values ts).declarations =
      s.entries.flatMap fun x => x.2.declarations x.1.origin ts (values x.2.id) := by
  show (s.outcomes values ts).filterMap Outcome.declaration? = _
  unfold outcomes Entry.declarations
  rw [List.filterMap_flatMap]

theorem entries_sublist {s s' : Schema} (h : s.sections <+ s'.sections) : s.entries <+ s'.entries :=
  h.flatMap _

theorem declarations_sublist {s s' : Schema} (h : s.sections <+ s'.sections) (values : Source)
    (ts : Transforms) :
    (s.compile values ts).declarations <+ (s'.compile values ts).declarations := by
  rw [declarations_compile, declarations_compile]
  exact (entries_sublist h).flatMap _

/-- The first option with an id stands in the first section that has one. -/
theorem entry?_eq_findSome? (s : Schema) (id : String) :
    s.entry? id = s.sections.findSome? (·.option? id) := by
  unfold entry? entries
  rw [List.find?_flatMap, List.map_findSome?]
  refine congrArg (List.findSome? · _) (funext fun sec => ?_)
  rw [Function.comp_apply, List.find?_map, Option.map_map]
  show ((sec.options.toList.find? (·.id == id)).map fun e => e) = sec.option? id
  rw [Option.map_id']
  rfl

theorem entry?_isSome_iff {s : Schema} {id : String} :
    (s.entry? id).isSome = true ↔ id ∈ s.entries.map (·.2.id) := by
  unfold entry?
  rw [Option.isSome_map, List.find?_isSome, List.mem_map]
  simp only [beq_iff_eq]

theorem mem_entries {s : Schema} {x : Section × Entry} :
    x ∈ s.entries ↔ x.1 ∈ s.sections ∧ x.2 ∈ x.1.options.toList := by
  unfold entries
  simp only [List.mem_flatMap, List.mem_map]
  constructor
  · rintro ⟨sec, hsec, e, he, rfl⟩
    exact ⟨hsec, he⟩
  · rintro ⟨hsec, he⟩
    exact ⟨x.1, hsec, x.2, he, rfl⟩

/-- An option is known from its id and that of its section, if sections are known from theirs. -/
theorem nodup_entries {s : Schema} (hdistinct : (s.sections.map Section.id).Nodup) :
    (s.entries.map fun x => (x.1.id, x.2.id)).Nodup := by
  unfold entries
  rw [List.nodup_iff_pairwise_ne, List.pairwise_map, List.pairwise_flatMap]
  constructor
  · intro sec _
    rw [List.pairwise_map]
    refine (List.pairwise_map.mp sec.options.nodup_keys).imp fun hne h => ?_
    exact hne (Prod.mk.inj h).2
  · refine (List.pairwise_map.mp hdistinct).imp fun {sec sec'} hne x hx y hy h => ?_
    obtain ⟨e, -, rfl⟩ := List.mem_map.mp hx
    obtain ⟨e', -, rfl⟩ := List.mem_map.mp hy
    exact hne (Prod.mk.inj h).1

end Schema

end ThemeOptions
