import ThemeOptions.Schema

/-!
# The registry

A `Registry` collects the sections of one contribution after the other.  An id that is registered
stays with its first section: a later section with that id is passed over, and it is a conflict if
it says something else.  Only a default that is still unset can be filled in afterwards.
-/

namespace ThemeOptions

/-- A section that an earlier one with the same id keeps out. -/
structure Conflict where
  sectionId : String
  /-- The contributor whose section stays. -/
  kept : Option String
  /-- The contributor whose section is passed over. -/
  rejected : Option String
deriving DecidableEq, Repr

/-- How messages name a contributor. -/
def contributorName (origin : Option String) : String :=
  origin.getD "<anonymous>"

def Conflict.message (c : Conflict) : String :=
  "section '" ++ c.sectionId ++ "' from " ++ contributorName c.rejected ++
    " is shadowed by the one from " ++ contributorName c.kept

/-- What a registration did, section by section in the order of the contribution.  A section that
says the same as the registered one is in neither list. -/
structure Report where
  added : List String := []
  conflicts : List Conflict := []
deriving DecidableEq, Repr

/-- The registered sections in order, and the conflicts that an observer has been told of, if there
is one. -/
structure Registry where
  sections : Keyed Section Section.id := Keyed.empty
  observed : Option (List Conflict) := none

/-- What becomes of a section that is to be registered. -/
inductive Admission where
  | added
  | alike
  | rejected (conflict : Conflict)
deriving DecidableEq, Repr

/-- Notes what became of a section. -/
def Report.note (report : Report) (s : Section) : Admission → Report
  | .added => { report with added := report.added ++ [s.id] }
  | .alike => report
  | .rejected c => { report with conflicts := report.conflicts ++ [c] }

namespace Registry

instance : Inhabited Registry := ⟨{}⟩

/-- No sections, with an observer. -/
def watched : Registry := { observed := some [] }

/-- The section with an id. -/
def section? (r : Registry) (id : String) : Option Section := r.sections.find? id

/-- The first option with an id. -/
def entry? (r : Registry) (id : String) : Option Entry :=
  r.sections.toList.findSome? (·.option? id)

/-- What becomes of a section from a contributor. -/
def admission (r : Registry) (origin : Option String) (s : Section) : Admission :=
  match r.section? s.id with
  | none => .added
  | some old =>
    if old.sameContent s then .alike
    else .rejected ⟨s.id, old.origin, origin⟩

/-- Registers one section: an id that is taken stays with its section, and the observer is told of a
conflict. -/
def enroll (r : Registry) (origin : Option String) (s : Section) : Registry :=
  match r.admission origin s with
  | .added => { r with sections := r.sections.insert { s with origin } }
  | .alike => r
  | .rejected c => { r with observed := r.observed.map (· ++ [c]) }

/-- Registers the sections of a contribution one after the other. -/
def register (r : Registry) (origin : Option String) (c : Contribution) : Report × Registry :=
  c.sections.toList.foldl
    (fun (report, r) s => (report.note s (r.admission origin s), r.enroll origin s)) ({}, r)

/-- Gives a default to an option that waits for one. -/
def fill (id : String) (v : Value) (s : Section) : Section :=
  { s with
    options := s.options.modify id
      (fun e => if e.hasUnsetDefault then e.withDefault (some v) else e)
      fun e => by split <;> rfl }

/-- Whether a section has an option with this id that waits for a default. -/
def awaits (id : String) (s : Section) : Bool :=
  (s.option? id).any Entry.hasUnsetDefault

/-- Supplies a default to every option with this id that waits for one.  The flag says whether there
was any. -/
def supplyDefault (r : Registry) (id : String) (v : Value) : Bool × Registry :=
  (r.sections.toList.any (awaits id),
    { r with sections := r.sections.map (fill id v) fun _ => rfl })

/-- The sections sorted by priority; those with equal priorities stay in the order in which they
were registered. -/
def schema (r : Registry) : Schema where
  sections := r.sections.toList.mergeSort fun a b => a.priority ≤ b.priority

end Registry

end ThemeOptions
