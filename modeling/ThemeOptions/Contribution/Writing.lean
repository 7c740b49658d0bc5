import ThemeOptions.Section
import ThemeOptions.Value.Document

/-!
# Writing contributions as documents

The document that says what a contribution holds, with every part under its main key and what is
missing left out.
-/

namespace ThemeOptions

/-- A key with its value, if there is one. -/
def written (name : String) (d : Option Document) : List (Document × Document) :=
  (d.map fun d => (Document.string name, d)).toList

/-- A number in a document. -/
def numberDocument (x : Float) : Document := .number (.float x)

/-- The document of a slider's limits. -/
def Bounds.toDocument (b : Bounds) : Document :=
  .mapping
    [(.string "min", numberDocument b.min), (.string "max", numberDocument b.max),
      (.string "step", numberDocument b.step)]

/-- The document of a rule. -/
def Rule.toDocument (r : Rule) : Document :=
  .mapping <|
    (Document.string "property", Document.string r.property) ::
    (Document.string "selector", Document.string r.selector) ::
    (written "unit" (r.unit.map .string) ++ written "callback_filter" (r.callback.map .string))

/-- The document that says how a font field is offered. -/
def FontFieldSpec.toDocument (s : FontFieldSpec) : Document :=
  .mapping <|
    (Document.string "enabled", Document.bool s.enabled) ::
    (written "min" (s.min.map numberDocument) ++ written "max" (s.max.map numberDocument) ++
      written "step" (s.step.map numberDocument) ++ written "unit" (s.unit.map .string))

/-- A list, unless there is nothing in it. -/
def listed {α : Type} (build : List α → Document) : List α → Option Document
  | [] => none
  | items => some (build items)

/-- The document of an option. -/
def Entry.toDocument (e : Entry) : Document :=
  .mapping <|
    written "type" (e.kind.map fun k => .string k.name) ++
    written "label" (some (.string e.label)) ++
    written "desc" (some (.string e.description)) ++
    written "default" (e.default.map Value.toDocument) ++
    written "live" (some (.bool e.live)) ++
    written "selector" (e.selector.map .string) ++
    written "html" (e.html.map .string) ++
    written "active_callback" (e.activeWhen.map .string) ++
    written "input_attrs" (e.bounds.map Bounds.toDocument) ++
    written "choices" (listed (fun cs => .mapping (cs.map fun c => (.string c.1, .string c.2)))
      e.choices.toList) ++
    written "css" (listed (fun rs => .sequence (rs.map Rule.toDocument)) e.rules) ++
    written "fields" (listed (fun fs => .mapping (fs.map fun f =>
      (.string f.1.name, f.2.toDocument))) e.fontFields.toList) ++
    written "recommended" (listed (fun fs => .sequence (fs.map .string)) e.recommended)

/-- The document of a section, without who registered it. -/
def Section.toDocument (s : Section) : Document :=
  .mapping <|
    written "title" (s.title.map .string) ++
    written "description" (s.description.map .string) ++
    written "priority" (some (.number (.int s.priority.toInt))) ++
    written "panel" (s.panel.map .string) ++
    written "options" (listed (fun es => .mapping (es.map fun e => (.string e.id, e.toDocument)))
      s.options.toList)

/-- The document of a contribution. -/
def Contribution.toDocument (c : Contribution) : Document :=
  .mapping (c.sections.toList.map fun s => (.string s.id, s.toDocument))

end ThemeOptions
