import ThemeOptions.Entry

/-!
# Sections and contributions

A `Section` is a titled group of options, and a `Contribution` is what one contributor brings: its
sections.  In both, an id that is taken keeps what was there first.
-/

namespace ThemeOptions

/-- A titled group of options. -/
structure Section where
  id : String
  title : Option String := none
  description : Option String := none
  /-- Sections with a lower priority come first. -/
  priority : Int32 := 10
  panel : Option String := none
  options : Keyed Entry Entry.id := Keyed.empty
  /-- The contributor that registered the section; the registry fills it in. -/
  origin : Option String := none

namespace Section

instance : Inhabited Section := ⟨{ id := "" }⟩

/-- The option with an id. -/
def option? (s : Section) (id : String) : Option Entry := s.options.find? id

/-- Adds an option unless its id is taken; the flag says whether it was added. -/
def insert (s : Section) (e : Entry) : Bool × Section :=
  (!s.options.contains e.id, { s with options := s.options.insert e })

/-- Adds an option unless its id is taken. -/
def add (s : Section) (e : Entry) : Section := (s.insert e).2

/-- Takes out an option, if it is there; the others keep their order. -/
def remove (s : Section) (id : String) : Option Entry × Section :=
  (s.option? id, { s with options := s.options.erase id })

/-- Changes the default of an option, if it is there. -/
def setDefault (s : Section) (id : String) (v : Option Value) : Section :=
  { s with options := s.options.modify id (·.withDefault v) fun _ => rfl }

/-- Whether two sections say the same, whoever registered them.  The order of the options does not
matter. -/
def sameContent (a b : Section) : Bool :=
  a.id == b.id && a.title == b.title && a.description == b.description &&
    a.priority == b.priority && a.panel == b.panel && a.options.agrees Entry.same b.options

/-- Whether two sections say the same and were registered by the same contributor. -/
def same (a b : Section) : Bool := a.sameContent b && a.origin == b.origin

end Section

/-- The sections that one contributor brings, in order. -/
structure Contribution where
  sections : Keyed Section Section.id := Keyed.empty

namespace Contribution

instance : Inhabited Contribution := ⟨{}⟩

/-- The section with an id. -/
def section? (c : Contribution) (id : String) : Option Section := c.sections.find? id

/-- Adds a section unless its id is taken; the flag says whether it was added. -/
def insert (c : Contribution) (s : Section) : Bool × Contribution :=
  (!c.sections.contains s.id, ⟨c.sections.insert s⟩)

/-- Adds a section unless its id is taken. -/
def add (c : Contribution) (s : Section) : Contribution := (c.insert s).2

/-- Changes a section, if it is there, but not its id. -/
def modify (c : Contribution) (id : String) (f : Section → Section) (h : ∀ s, (f s).id = s.id) :
    Contribution :=
  ⟨c.sections.modify id f h⟩

/-- The first section that has an option with this id. -/
def sectionOf? (c : Contribution) (option : String) : Option Section :=
  c.sections.toList.find? (·.options.contains option)

/-- Changes the default of an option in the first section that has it. -/
def setDefault (c : Contribution) (option : String) (v : Option Value) : Contribution :=
  match c.sectionOf? option with
  | none => c
  | some s => c.modify s.id (·.setDefault option v) fun _ => rfl

end Contribution

end ThemeOptions
