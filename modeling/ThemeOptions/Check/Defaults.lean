import ThemeOptions.Finding
import ThemeOptions.Registry

/-!
# The check for open defaults

Finds the options whose contributor left the default open and for which nobody supplied one.
Options that another contributor's section keeps out, or that are gone from the section, are not
found.
-/

namespace ThemeOptions

/-- The finding about an option whose default is still open. -/
def openDefaultFinding (contributor : Option String) (s : Section) (e : Entry) : Finding :=
  ⟨.defaultIncomplete, contributor, e.id,
    "option '" ++ e.id ++ "' in section '" ++ s.id ++
      "' defers its default but none was supplied"⟩

/-- The options of a section that are open in it and in its registered form. -/
def Section.openIn (s registered : Section) : List Entry :=
  s.options.toList.filter fun e =>
    e.hasUnsetDefault && (registered.option? e.id).any Entry.hasUnsetDefault

/-- What the check for open defaults finds, given the contribution as it was returned. -/
def Registry.openDefaultFindings (r : Registry) (contributor : Option String)
    (returned : Contribution) : List Finding :=
  returned.sections.toList.flatMap fun s =>
    match r.section? s.id with
    | none => []
    | some registered =>
      if registered.origin == contributor then
        (s.openIn registered).map (openDefaultFinding contributor s)
      else []

end ThemeOptions
