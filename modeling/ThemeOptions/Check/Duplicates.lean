import ThemeOptions.Finding
import ThemeOptions.Registry

/-!
# The check for duplicates

Finds the options of a contribution whose ids are taken, be it in the registry or by an option
further up in the contribution.  Sections that the registry will keep out are passed over, as their
options never become part of the schema.
-/

namespace ThemeOptions

/-- The sections of a contribution whose ids are free. -/
def Registry.freeSections (r : Registry) (c : Contribution) : List Section :=
  c.sections.toList.filter fun s => !r.sections.contains s.id

/-- The options of a list, each with its section, whose ids are registered or are those of options
before them in the list. -/
def taken {σ : Type} (registered : String → Bool) :
    List String → List (σ × Entry) → List (σ × Entry)
  | _, [] => []
  | seen, (s, e) :: rest =>
    if registered e.id || seen.contains e.id then (s, e) :: taken registered seen rest
    else taken registered (e.id :: seen) rest

/-- The finding about an option whose id is taken. -/
def duplicateFinding (contributor : Option String) (s : Section) (e : Entry) : Finding :=
  ⟨.duplicateOption, contributor, e.id,
    "option '" ++ e.id ++ "' in section '" ++ s.id ++ "' is already defined elsewhere"⟩

/-- What the check for duplicates finds in a contribution that is about to be registered. -/
def Registry.duplicateFindings (r : Registry) (contributor : Option String) (c : Contribution) :
    List Finding :=
  let entries := (r.freeSections c).flatMap fun s => s.options.toList.map fun e => (s, e)
  (taken (fun id => (r.entry? id).isSome) [] entries).map fun (s, e) =>
    duplicateFinding contributor s e

end ThemeOptions
