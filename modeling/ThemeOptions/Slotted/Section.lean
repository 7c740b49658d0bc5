import ThemeOptions.Section
import ThemeOptions.Slots

/-!
# Sections and contributions that can be changed in any way

A contributor or a filter may hold on to an option of its section, or to a section of its
contribution, and change it into anything, its id included.  The option stays where it was put in,
so a section has options under ids that need not be their own, and a contribution may have two
sections with one id.  Nothing moves if no id is changed: then everything stands in its place.
-/

namespace ThemeOptions.Slotted

/-- A titled group of options, each under the id with which it was put in. -/
structure Section where
  id : String
  title : Option String := none
  description : Option String := none
  /-- Sections with a lower priority come first. -/
  priority : Int32 := 10
  panel : Option String := none
  options : Slots Entry := Keyed.empty
  /-- The contributor that registered the section; the registry fills it in. -/
  origin : Option String := none

namespace Section

instance : Inhabited Section := ⟨{ id := "" }⟩

/-- The section without its options. -/
def head (s : Section) : ThemeOptions.Section where
  id := s.id
  title := s.title
  description := s.description
  priority := s.priority
  panel := s.panel
  origin := s.origin

/-- The options, in order. -/
def entries (s : Section) : List Entry := s.options.items

/-- The option that stands under an id. -/
def option? (s : Section) (id : String) : Option Entry := s.options.item? id

/-- Adds an option under its id unless that is taken. -/
def add (s : Section) (e : Entry) : Section := { s with options := s.options.put Entry.id e }

/-- Takes out what stands under an id; the others keep their order. -/
def remove (s : Section) (id : String) : Section := { s with options := s.options.erase id }

/-- Changes the option that stands under an id in any way. -/
def revise (s : Section) (id : String) (f : Entry → Entry) : Section :=
  { s with options := s.options.revise id f }

/-- Whether two sections say the same, whoever registered them: they have options that say the same
under the same ids.  The order of the options does not matter. -/
def sameContent (a b : Section) : Bool :=
  a.head.sameContent b.head && a.options.agrees Entry.same b.options

/-- Every option stands under its own id. -/
def InPlace (s : Section) : Prop := s.options.InPlace Entry.id

end Section

/-- The sections that one contributor brings, in order, each under the id with which it was put
in. -/
structure Contribution where
  sections : Slots Section := Keyed.empty

namespace Contribution

instance : Inhabited Contribution := ⟨{}⟩

/-- The sections, in order. -/
def items (c : Contribution) : List Section := c.sections.items

/-- Adds a section under its id unless that is taken. -/
def add (c : Contribution) (s : Section) : Contribution := ⟨c.sections.put Section.id s⟩

/-- Changes the section that stands under an id in any way. -/
def revise (c : Contribution) (id : String) (f : Section → Section) : Contribution :=
  ⟨c.sections.revise id f⟩

/-- Every section and every option stands under its own id. -/
structure InPlace (c : Contribution) : Prop where
  sections : c.sections.InPlace Section.id
  options : ∀ s ∈ c.items, s.InPlace

end Contribution

end ThemeOptions.Slotted
