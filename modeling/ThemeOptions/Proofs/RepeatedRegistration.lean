import Mathlib
import ThemeOptions.Proofs.Collections
import ThemeOptions.Proofs.Reports

/-!
# Registering a contribution twice

The sections that a first call adds meet themselves in a second one.  A section says the same as
itself exactly if none of its numbers lacks a value (`Section.sameContent_self`), since such a
number equals nothing.  So a second call changes no section and repeats the conflicts of the first,
and it tells of a new one for each section with such a number that the first call has added
(`Registry.register_register`).
-/

namespace ThemeOptions

/-! ### Numbers -/

mutual

/-- The numbers in a value. -/
def Value.numbers : Value → List Float
  | .number x => [x]
  | .font fields => FontField.all.flatMap fun f => Value.fieldNumbers (fields f)
  | _ => []

/-- The numbers in a font field. -/
def Value.fieldNumbers : Option Value → List Float
  | none => []
  | some v => v.numbers

end

def Bounds.numbers (b : Bounds) : List Float := [b.min, b.max, b.step]

def FontFieldSpec.numbers (s : FontFieldSpec) : List Float :=
  s.min.toList ++ s.max.toList ++ s.step.toList

/-- The numbers in what is said of the font fields. -/
def FontTable.numbers (t : FontTable FontFieldSpec) : List Float :=
  FontField.all.flatMap fun f => (t f).toList.flatMap FontFieldSpec.numbers

/-- The numbers in an option: those of its default, its limits and its font fields. -/
def Entry.numbers (e : Entry) : List Float :=
  e.default.toList.flatMap Value.numbers ++ e.bounds.toList.flatMap Bounds.numbers ++
    e.fieldSpecs.toList.flatMap FontTable.numbers

/-- The numbers in a section. -/
def Section.numbers (s : Section) : List Float := s.options.toList.flatMap Entry.numbers

/-- Whether some number in a section lacks a value. -/
def Section.hasNaN (s : Section) : Bool := s.numbers.any Float.isNaN

/-! ### What says the same as itself -/

/-- A number equals itself unless it has no value. -/
theorem Decimal.beq_self_eq (x : Float) : (x == x) = !x.isNaN := by
  rw [Bool.eq_iff_iff, Float.beq_self_iff, Float.isNaN_eq_decide_eq_nan]
  simp

theorem sameOption_self_iff {α : Type} {same : α → α → Bool} {a : Option α} :
    sameOption same a a = true ↔ ∀ x ∈ a.toList, same x x = true := by
  cases a <;> simp [sameOption]

mutual

/-- The induction is on the value; a font is like itself if each of its fields is. -/
theorem Value.same_self_iff :
    (v : Value) → (v.same v = true ↔ ∀ x ∈ v.numbers, x.isNaN = false)
  | .unset => by simp [same, numbers]
  | .bool b => by simp [same, numbers]
  | .number x => by simp [same, numbers, Decimal.beq_self_eq]
  | .text t => by simp [same, numbers]
  | .font fields => by
    have hfield (f : FontField) := Value.sameField_self_iff (fields f)
    simp only [same, numbers, List.all_eq_true, hfield, List.forall_mem_flatMap]

theorem Value.sameField_self_iff :
    (v : Option Value) → (sameField v v = true ↔ ∀ x ∈ fieldNumbers v, x.isNaN = false)
  | none => by simp [sameField, fieldNumbers]
  | some v => by simpa only [sameField, fieldNumbers] using Value.same_self_iff v

end

theorem Bounds.same_self_iff {b : Bounds} :
    b.same b = true ↔ ∀ x ∈ b.numbers, x.isNaN = false := by
  simp [same, numbers, Decimal.beq_self_eq, and_assoc]

theorem FontFieldSpec.same_self_iff {s : FontFieldSpec} :
    s.same s = true ↔ ∀ x ∈ s.numbers, x.isNaN = false := by
  simp only [same, numbers, beq_self_eq_true, Bool.true_and, Bool.and_true, Bool.and_eq_true,
    sameOption_self_iff, Decimal.beq_self_eq, Bool.not_eq_true', List.mem_append, or_imp,
    forall_and]

theorem FontTable.same_self_iff {t : FontTable FontFieldSpec} :
    FontTable.same t t = true ↔ ∀ x ∈ t.numbers, x.isNaN = false := by
  simp only [same, numbers, List.all_eq_true, sameOption_self_iff, FontFieldSpec.same_self_iff,
    List.forall_mem_flatMap]

theorem Entry.same_self_iff {e : Entry} :
    e.same e = true ↔ ∀ x ∈ e.numbers, x.isNaN = false := by
  have hchoices : e.choices.agrees (· == ·) e.choices = true :=
    Keyed.agrees_self_iff.mpr fun x _ => beq_self_eq_true x
  simp only [same, numbers, hchoices, beq_self_eq_true, Bool.true_and, Bool.and_true,
    Bool.and_eq_true, sameOption_self_iff, Value.same_self_iff, Bounds.same_self_iff,
    FontTable.same_self_iff, List.forall_mem_append,
    List.forall_mem_flatMap]

/-- A section says the same as itself exactly if each number in it has a value. -/
theorem Section.sameContent_self (s : Section) : s.sameContent s = !s.hasNaN := by
  have hoptions : s.options.agrees Entry.same s.options = true ↔ s.hasNaN = false := by
    simp only [Keyed.agrees_self_iff, Entry.same_self_iff, hasNaN, numbers, List.any_eq_false,
      List.forall_mem_flatMap, Bool.not_eq_true]
  simp only [sameContent, beq_self_eq_true, Bool.true_and]
  rw [Bool.eq_iff_iff, hoptions, Bool.not_eq_true']

/-! ### The second call -/

namespace Registry

variable {r : Registry} {origin : Option String} {c : Contribution} {s : Section}

/-- What the registry has under the id of a section after it was registered. -/
theorem section?_register_of_mem (hs : s ∈ c.sections.toList) :
    (r.register origin c).2.section? s.id =
      some ((r.section? s.id).getD (s.withOrigin origin)) := by
  rw [section?_register, Contribution.section?, Keyed.find?_eq_some_iff.mpr ⟨hs, rfl⟩]
  cases r.section? s.id <;> rfl

/-- In a second call a section that the first one added is in conflict if it is not like itself, and
any other section is in conflict as before. -/
theorem conflict?_admission_register (hs : s ∈ c.sections.toList) :
    ((r.register origin c).2.admission origin s).conflict? =
      if s.id ∈ (r.register origin c).1.added then
        if s.hasNaN then some ⟨s.id, origin, origin⟩ else none
      else (r.admission origin s).conflict? := by
  rw [conflict?_admission, conflict?_admission, section?_register_of_mem hs, Option.bind_some]
  simp only [mem_added_iff hs]
  cases h : r.section? s.id with
  | none =>
    have hself : (s.withOrigin origin).sameContent s = !s.hasNaN := s.sameContent_self
    rw [if_pos rfl, Option.getD_none, hself]
    cases s.hasNaN <;> rfl
  | some old =>
    simp only [reduceCtorEq, if_false, Option.getD_some, Option.bind_some]

theorem conflict?_admission_of_added (hs : s ∈ c.sections.toList)
    (hadded : s.id ∈ (r.register origin c).1.added) :
    (r.admission origin s).conflict? = none := by
  rw [conflict?_admission, (mem_added_iff hs).mp hadded]
  rfl

/-- **A second call changes nothing, but it may tell of sections at odds with themselves.**  It
leaves every section as it is, adds none, and repeats the conflicts of the first call; besides these
it reports each section that the first call added and that holds a number without a value.  So both
calls report the same conflicts exactly if every number in the added sections has a value. -/
theorem register_register (r : Registry) (origin : Option String) (c : Contribution) :
    let first := r.register origin c
    let again := first.2.register origin c
    again.2.sections = first.2.sections ∧
    again.2.observed = first.2.observed.map (· ++ again.1.conflicts) ∧
    again.1.added = [] ∧
    (again.1.conflicts = c.sections.toList.filterMap fun s =>
      if s.id ∈ first.1.added then if s.hasNaN then some ⟨s.id, origin, origin⟩ else none
      else (r.admission origin s).conflict?) ∧
    (again.1.conflicts = first.1.conflicts ↔
      ∀ s ∈ c.sections.toList, s.id ∈ first.1.added → s.hasNaN = false) := by
  intro first again
  have hnone : first.2.freeSections c = [] := by
    refine List.filter_eq_nil_iff.mpr fun s hs => ?_
    have htaken : first.2.sections.contains s.id = true := by
      rw [Keyed.contains_iff, ← section?_isSome_iff, section?_register_of_mem hs]
      rfl
    simp [htaken]
  have hconflicts : again.1.conflicts = c.sections.toList.filterMap fun s =>
      if s.id ∈ first.1.added then if s.hasNaN then some ⟨s.id, origin, origin⟩ else none
      else (r.admission origin s).conflict? := by
    rw [conflicts_register]
    exact List.filterMap_congr fun s hs => conflict?_admission_register hs
  refine ⟨Keyed.ext ?_, observed_register _ origin c, ?_, hconflicts, ?_⟩
  · rw [toList_register, hnone, List.map_nil, List.append_nil]
  · rw [added_register, hnone, List.map_nil]
  · constructor
    · intro hsame s hs hadded
      by_contra hnan
      -- the section's conflict with itself is not among those of the first call
      have hmem : ⟨s.id, origin, origin⟩ ∈ first.1.conflicts := by
        rw [← hsame, hconflicts, List.mem_filterMap]
        exact ⟨s, hs, by rw [if_pos hadded, if_pos (by simpa using hnan)]⟩
      exact not_mem_added_of_mem_conflicts hmem hadded
    · intro hvalues
      rw [hconflicts, conflicts_register]
      refine List.filterMap_congr fun s hs => ?_
      split
      · rename_i hadded
        rw [hvalues s hs hadded, conflict?_admission_of_added hs hadded]
        rfl
      · rfl

end Registry

/-! ### A slider whose default has no value -/

namespace Sample

/-- A gap with a default, and a palette. -/
def layout (gap : Float) : Contribution where
  sections := Keyed.ofList
    [{ id := "layout"
       title := some "Layout"
       options := Keyed.ofList
        [{ id := "gap", kind := some .range, default := some (.number gap) }] },
     { id := "colors", title := some "Palette" }]

/-- A registry that has other colors already. -/
def colored : Registry :=
  (({} : Registry).register (some "core") ⟨Keyed.ofList [{ id := "colors" }]⟩).2

end Sample

/-- The gap without a value is added by the first call and in conflict with itself in the second. -/
theorem conflict_with_itself :
    let first := Sample.colored.register (some "theme") (Sample.layout (0 / 0))
    let again := first.2.register (some "theme") (Sample.layout (0 / 0))
    first.1 = ⟨["layout"], [⟨"colors", some "core", some "theme"⟩]⟩ ∧
    again.1 = ⟨[], [⟨"layout", some "theme", some "theme"⟩,
      ⟨"colors", some "core", some "theme"⟩]⟩ := by
  decide +kernel

/-- A gap of 20 is added by the first call and passed over in silence by the second. -/
theorem register_register_layout :
    let first := Sample.colored.register (some "theme") (Sample.layout 20)
    let again := first.2.register (some "theme") (Sample.layout 20)
    first.1 = ⟨["layout"], [⟨"colors", some "core", some "theme"⟩]⟩ ∧
    again.2.sections = first.2.sections ∧ again.1.added = [] ∧
    again.1.conflicts = first.1.conflicts := by
  obtain ⟨hsections, -, hadded, -, hconflicts⟩ :=
    Registry.register_register Sample.colored (some "theme") (Sample.layout 20)
  refine ⟨by decide +kernel, hsections, hadded, hconflicts.mpr ?_⟩
  decide +kernel

end ThemeOptions
