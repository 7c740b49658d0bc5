import ThemeOptions.Record
import ThemeOptions.Source

/-!
# Schemas

A `Schema` is what all contributors together offer: their sections, sorted by priority.
-/

namespace ThemeOptions

/-- The sections of all contributors in the order of their priorities. -/
structure Schema where
  sections : List Section := []

namespace Schema

instance : Inhabited Schema := ⟨{}⟩

/-- Every option with its section, in order. -/
def entries (s : Schema) : List (Section × Entry) :=
  s.sections.flatMap fun sec => sec.options.toList.map fun e => (sec, e)

/-- The section with an id. -/
def section? (s : Schema) (id : String) : Option Section :=
  s.sections.find? (·.id == id)

/-- The first option with an id. -/
def entry? (s : Schema) (id : String) : Option Entry :=
  (s.entries.find? (·.2.id == id)).map Prod.snd

/-- The number of options. -/
def optionCount (s : Schema) : Nat :=
  s.sections.foldr (fun sec n => sec.options.size + n) 0

/-- Every option at its default. -/
def defaults (s : Schema) : Source := fun id =>
  match s.entry? id with
  | some e => e.effectiveDefault
  | none => .unset

/-- The record of a schema. -/
def toRecord (s : Schema) : Document :=
  Record.fields [("sections", .sequence (s.sections.map Record.ofSection))]

theorem optionCount_eq_length_entries (s : Schema) : s.optionCount = s.entries.length := by
  unfold optionCount entries
  induction s.sections with
  | nil => rfl
  | cons sec rest ih =>
    rw [List.foldr_cons, ih, List.flatMap_cons, List.length_append, List.length_map, Keyed.size]

end Schema

end ThemeOptions
