import ThemeOptions.Proofs.AlikeSections
import ThemeOptions.Proofs.StableSort

/-!
# The order of a schema

A schema has the sections of its registry as they are, sorted by priority, and those with equal
priorities in the order in which they were registered.  There is only one such list
(`Registry.eq_schema_iff`).  Sections are found under their ids in both alike, and the options of a
schema are those of its sections, one after the other (`Registry.schema_described`).
-/

open scoped List

namespace ThemeOptions

/-! ### The options of a schema -/

namespace Schema

variable {s : Schema}

/-- The options stand in the order of their sections, and within a section in its own order. -/
theorem pairwise_entries : s.entries.Pairwise fun x y =>
    [x.1, y.1] <+ s.sections ∨ x.1 = y.1 ∧ [x.2, y.2] <+ x.1.options.toList := by
  unfold entries
  rw [List.pairwise_flatMap]
  constructor
  · intro sec _
    rw [List.pairwise_map, List.pairwise_iff_forall_sublist]
    exact fun hab => .inr ⟨rfl, hab⟩
  · rw [List.pairwise_iff_forall_sublist]
    intro sec sec' hsections x hx y hy
    obtain ⟨e, -, rfl⟩ := List.mem_map.mp hx
    obtain ⟨e', -, rfl⟩ := List.mem_map.mp hy
    exact .inl hsections

end Schema

namespace Registry

variable (r : Registry)

/-- Every option with its section, in the order of registration. -/
def entries : List (Section × Entry) := Schema.entries ⟨r.sections.toList⟩

/-- Sorting changes the order of the options only. -/
theorem entries_schema_perm : r.schema.entries ~ r.entries :=
  (List.mergeSort_perm _ _).flatMap_right _

theorem section?_schema (id : String) : r.schema.section? id = r.section? id :=
  (find?_eq_of_perm (List.mergeSort_perm _ _).symm r.sections.nodup_keys id).symm

/-- The sections of a schema are the only arrangement of the registered ones that is sorted by
priority and keeps the order of registration where priorities are equal. -/
theorem eq_schema_iff (l : List Section) :
    l = r.schema.sections ↔
      l ~ r.sections.toList ∧ (l.Pairwise fun a b => a.priority ≤ b.priority) ∧
        ∀ a b, [a, b] <+ l → a.priority = b.priority → [a, b] <+ r.sections.toList := by
  have hunique : l = r.schema.sections ↔ _ :=
    StableSort.eq_mergeSort_iff (StableSort.byPriority_total Section.priority)
      (StableSort.byPriority_trans Section.priority) r.sections.nodup_toList
  rw [hunique]
  simp only [StableSort.byPriority, decide_eq_true_eq]
  refine and_congr_right fun _ => and_congr_right fun hsorted => ?_
  refine forall₃_congr fun a b hab => ?_
  have hle := List.pairwise_iff_forall_sublist.mp hsorted hab
  have heq : b.priority ≤ a.priority ↔ a.priority = b.priority :=
    ⟨fun hba => Int32.le_antisymm hle hba, fun h => h ▸ Int32.le_refl _⟩
  rw [heq]

/-- **A schema is its registry, sorted.**  Its sections are the only arrangement of the registered
ones, contents, contributors and all, that is sorted by priority and keeps the order of registration
where priorities are equal; every id has the same section in both.  Its options are those of the
registered sections, each of them once, in the order of the sections and of the options in them, and
their number is counted rightly. -/
theorem schema_described :
    (∀ l, l = r.schema.sections ↔
      l ~ r.sections.toList ∧ (l.Pairwise fun a b => a.priority ≤ b.priority) ∧
        ∀ a b, [a, b] <+ l → a.priority = b.priority → [a, b] <+ r.sections.toList) ∧
    (∀ id, r.schema.section? id = r.section? id) ∧
    (∀ sec e, (sec, e) ∈ r.schema.entries ↔ sec ∈ r.sections.toList ∧ e ∈ sec.options.toList) ∧
    (r.schema.entries.map fun x => (x.1.id, x.2.id)).Nodup ∧
    (r.schema.entries.Pairwise fun x y =>
      [x.1, y.1] <+ r.schema.sections ∨ x.1 = y.1 ∧ [x.2, y.2] <+ x.1.options.toList) ∧
    r.schema.entries ~ r.entries ∧
    r.schema.optionCount = r.schema.entries.length := by
  have hperm : r.schema.sections ~ r.sections.toList := List.mergeSort_perm _ _
  refine ⟨r.eq_schema_iff, r.section?_schema, fun sec e => ?_,
    Schema.nodup_entries r.nodup_ids_schema, Schema.pairwise_entries, r.entries_schema_perm,
    r.schema.optionCount_eq_length_entries⟩
  rw [Schema.mem_entries, hperm.mem_iff]

end Registry

end ThemeOptions
