import ThemeOptions.Compile
import ThemeOptions.Slotted.Section

/-!
# The registry of changeable contributions

A registry takes sections out of their places: it has them under their own ids, and a second section
with an id that is taken is passed over, be it of the same contribution.  Options are looked up by
the ids under which they stand.  In the schema they are found by their own ids, as the values are
when they are compiled.
-/

namespace ThemeOptions.Slotted

/-- The sections of all contributors in the order of their priorities. -/
structure Schema where
  sections : List Section := []

namespace Schema

instance : Inhabited Schema := ⟨{}⟩

/-- Every option with its section, in order. -/
def entries (s : Schema) : List (Section × Entry) :=
  s.sections.flatMap fun sec => sec.entries.map fun e => (sec, e)

/-- The section with an id. -/
def section? (s : Schema) (id : String) : Option Section :=
  s.sections.find? (·.id == id)

/-- The first option whose own id is this one. -/
def entry? (s : Schema) (id : String) : Option Entry :=
  (s.entries.find? (·.2.id == id)).map Prod.snd

/-- The number of options. -/
def optionCount (s : Schema) : Nat :=
  s.sections.foldr (fun sec n => sec.options.size + n) 0

/-- Every option at its default. -/
def defaults (s : Schema) : Source := fun id =>
  match s.entry? id with
  | some e => e.effectiveDefault
  | none => .unset

/-- Compiles the current values of a schema's options. -/
def compile (s : Schema) (values : Source) (ts : Transforms) : Compiled :=
  Compiled.ofOutcomes (s.entries.flatMap fun (sec, e) => e.compile sec.origin ts (values e.id))

end Schema

/-- The registered sections in order, and the conflicts that an observer has been told of, if there
is one. -/
structure Registry where
  sections : Keyed Section Section.id := Keyed.empty
  observed : Option (List Conflict) := none

namespace Registry

instance : Inhabited Registry := ⟨{}⟩

/-- No sections, with an observer. -/
def watched : Registry := { observed := some [] }

/-- The section with an id. -/
def section? (r : Registry) (id : String) : Option Section := r.sections.find? id

/-- The first option that stands under an id. -/
def entry? (r : Registry) (id : String) : Option Entry :=
  r.sections.toList.findSome? (·.option? id)

/-- What becomes of a section from a contributor. -/
def admission (r : Registry) (origin : Option String) (s : Section) : Admission :=
  match r.section? s.id with
  | none => .added
  | some old =>
    if old.sameContent s then .alike
    else .rejected ⟨s.id, old.origin, origin⟩

/-- Tells the observer of conflicts. -/
def tell (r : Registry) (conflicts : List Conflict) : Registry :=
  { r with observed := r.observed.map (· ++ conflicts) }

@[simp] theorem tell_nil (r : Registry) : r.tell [] = r := by
  show { r with observed := r.observed.map (· ++ []) } = r
  simp

/-- Registers one section: an id that is taken stays with its section, and the observer is told of a
conflict. -/
def enroll (r : Registry) (origin : Option String) (s : Section) : Registry :=
  match r.admission origin s with
  | .added => { r with sections := r.sections.insert { s with origin } }
  | .alike => r
  | .rejected c => r.tell [c]

/-- Registers the sections of a contribution one after the other. -/
def register (r : Registry) (origin : Option String) (c : Contribution) : Report × Registry :=
  c.items.foldl
    (fun (report, r) s => (report.note s.head (r.admission origin s), r.enroll origin s)) ({}, r)

/-- Gives a default to an option that waits for one. -/
def fillEntry (v : Value) (e : Entry) : Entry :=
  if e.hasUnsetDefault then e.withDefault (some v) else e

/-- Gives a default to what stands under an id, if it waits for one. -/
def fill (id : String) (v : Value) (s : Section) : Section := s.revise id (fillEntry v)

/-- Whether what stands under an id waits for a default. -/
def awaits (id : String) (s : Section) : Bool :=
  (s.option? id).any Entry.hasUnsetDefault

/-- Supplies a default to every option that stands under this id and waits for one.  The flag says
whether there was any. -/
def supplyDefault (r : Registry) (id : String) (v : Value) : Bool × Registry :=
  (r.sections.toList.any (awaits id),
    { r with sections := r.sections.map (fill id v) fun _ => rfl })

/-- The sections sorted by priority; those with equal priorities stay in the order in which they
were registered. -/
def schema (r : Registry) : Schema where
  sections := r.sections.toList.mergeSort fun a b => a.priority ≤ b.priority

end Registry

end ThemeOptions.Slotted
