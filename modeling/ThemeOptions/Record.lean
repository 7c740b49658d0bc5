import ThemeOptions.Contribution.Writing

/-!
# Records

The form in which a schema is handed on to other programs: every part under its own name, in a fixed
order, with null for what is missing.
-/

namespace ThemeOptions.Record

/-- A mapping whose keys are names. -/
def fields (pairs : List (String × Document)) : Document :=
  .mapping (pairs.map fun (name, d) => (.string name, d))

/-- A text that may be missing. -/
def text? : Option String → Document
  | some s => .string s
  | none => .null

/-- A number that may be missing. -/
def number? : Option Float → Document
  | some x => numberDocument x
  | none => .null

/-- A whole number. -/
def whole (n : Int32) : Document := .number (.int n.toInt)

/-- The record of a rule. -/
def ofRule (r : Rule) : Document :=
  fields
    [("property", .string r.property), ("selector", .string r.selector), ("unit", text? r.unit),
      ("callback_filter", text? r.callback)]

/-- The record of how a font field is offered. -/
def ofFontField (s : FontFieldSpec) : Document :=
  fields
    [("enabled", .bool s.enabled), ("min", number? s.min), ("max", number? s.max),
      ("step", number? s.step), ("unit", text? s.unit)]

/-- The record of the font fields, or null if nothing is said of any. -/
def ofFieldSpecs : Option (FontTable FontFieldSpec) → Document
  | some table => fields (table.toList.map fun (f, spec) => (f.name, ofFontField spec))
  | none => .null

/-- The record of an option. -/
def ofEntry (e : Entry) : Document :=
  fields
    [("id", .string e.id),
      ("kind", text? (e.kind.map Kind.name)),
      ("label", .string e.label),
      ("description", .string e.description),
      ("default", (e.default.map Value.toDocument).getD .null),
      ("choices", fields (e.choices.toList.map fun (value, label) => (value, .string label))),
      ("input_constraints", (e.bounds.map Bounds.toDocument).getD .null),
      ("css_rules", .sequence (e.rules.map ofRule)),
      ("live", .bool e.live),
      ("selector", text? e.selector),
      ("sub_fields", ofFieldSpecs e.fieldSpecs),
      ("recommended", .sequence (e.recommended.map .string)),
      ("html", text? e.html),
      ("active_when", text? e.activeWhen)]

/-- The record of a section; who registered it stands there only if it is known. -/
def ofSection (s : Section) : Document :=
  fields <|
    [("id", .string s.id),
      ("title", text? s.title),
      ("description", text? s.description),
      ("priority", whole s.priority),
      ("panel", text? s.panel),
      ("options", fields (s.options.toList.map fun e => (e.id, ofEntry e)))] ++
    (s.origin.map fun origin => ("origin", Document.string origin)).toList

/-- The record of a contribution, by section id. -/
def ofContribution (c : Contribution) : Document :=
  fields (c.sections.toList.map fun s => (s.id, ofSection s))

end ThemeOptions.Record
