import ThemeOptions.Registry
import ThemeOptions.Stylesheet
import ThemeOptions.Transform

/-!
# Compiling values into CSS

Every option is compiled by itself, in the order of the schema.  A font gives one declaration for
each of its fields, in canonical order, and any other option one for each of its rules.  What comes
of one field or one rule is an `Outcome`; a rule that fails is reported and affects no other.
-/

namespace ThemeOptions

/-- What comes of one rule or one font field. -/
inductive Outcome where
  | declaration (d : Declaration)
  | finding (f : Finding)
  | nothing
deriving DecidableEq, Repr

namespace Outcome

def declaration? : Outcome → Option Declaration
  | declaration d => some d
  | _ => none

def finding? : Outcome → Option Finding
  | finding f => some f
  | _ => none

end Outcome

namespace Entry

/-- A declaration of this option. -/
def declare (e : Entry) (selector property value : String) : Outcome :=
  .declaration ⟨Text.trim selector, property, value, e.id, e.live⟩

/-- What comes of a property and a value: nothing if the property is blank or the value empty. -/
def emit (e : Entry) (r : Rule) (property : String) (v : Value) : Outcome :=
  if Text.blank property || v.isEmpty then .nothing
  else e.declare r.selector (Text.trim property) (v.render r.unitText)

/-- What comes of one rule.  A rule without a transform gives its own property; otherwise the
transform has to exist and to accept the value. -/
def compileRule (e : Entry) (origin : Option String) (ts : Transforms) (v : Value) (r : Rule) :
    Outcome :=
  match r.transform? with
  | none => e.emit r r.property v
  | some name =>
    match ts.get? name with
    | none =>
      .finding ⟨.unknownTransform, origin, e.id,
        "unknown transform '" ++ name ++ "' on a rule of '" ++ e.id ++ "'"⟩
    | some t =>
      match t.apply v r e with
      | .ok out => e.emit r out.property out.value
      | .error err =>
        .finding ⟨.transformFailed, origin, e.id,
          "transform '" ++ name ++ "' failed for '" ++ e.id ++ "': " ++ err.message⟩

/-- The fields of the font that a value is; a text is the family of a font. -/
def fontFieldsOf : Value → FontTable Value
  | .font fields => fields
  | .text t => FontTable.empty.set .fontFamily (.text t)
  | _ => FontTable.empty

/-- What comes of one font field: nothing if it is switched off, missing or empty. -/
def compileFontField (e : Entry) (selector : String) (v : Value) (f : FontField) : Outcome :=
  match fontFieldsOf v f with
  | none => .nothing
  | some fv =>
    if !e.enables f || fv.isEmpty then .nothing
    else e.declare selector f.name (fv.render (e.fontUnit f))

/-- What comes of an option, rule by rule or field by field. -/
def compile (e : Entry) (origin : Option String) (ts : Transforms) (v : Value) : List Outcome :=
  if !e.emitsCss || v.isEmpty then []
  else if e.isFont then
    match e.fontSelector? with
    | none => []
    | some selector => FontField.all.map (e.compileFontField selector v)
  else e.rules.map (e.compileRule origin ts v)

end Entry

/-- The declarations and the findings among outcomes. -/
def Compiled.ofOutcomes (outcomes : List Outcome) : Compiled where
  declarations := outcomes.filterMap Outcome.declaration?
  findings := outcomes.filterMap Outcome.finding?

namespace Schema

/-- What comes of all options of a schema. -/
def outcomes (s : Schema) (values : Source) (ts : Transforms) : List Outcome :=
  s.entries.flatMap fun (sec, e) => e.compile sec.origin ts (values e.id)

/-- Compiles the current values of a schema's options. -/
def compile (s : Schema) (values : Source) (ts : Transforms) : Compiled :=
  Compiled.ofOutcomes (s.outcomes values ts)

end Schema

end ThemeOptions
