import ThemeOptions.BuildOptions
import ThemeOptions.Check.Defaults
import ThemeOptions.Check.Duplicates
import ThemeOptions.Check.Structure
import ThemeOptions.Contribution.Error

/-!
# The pipeline

A `Pipeline` runs contributors in the order of their priorities, and each contribution is registered
before the next contributor runs.  Filters change a contribution on its way into the registry.  At
the end the application's defaults fill what is still open.  A contributor or a filter that fails
ends the build; what the checks find ends nothing, and they run only in diagnostics mode.
-/

namespace ThemeOptions

/-- Where a contributor comes from. -/
inductive Provenance where
  /-- Part of the theme itself. -/
  | builtIn
  /-- A theme that extends it. -/
  | childExtension
  | pluginExtension
deriving DecidableEq, Repr

namespace Provenance

def all : List Provenance := [builtIn, childExtension, pluginExtension]

def name : Provenance → String
  | builtIn => "built-in"
  | childExtension => "child-extension"
  | pluginExtension => "plugin-extension"

/-- The provenance with exactly this name. -/
def parse? (s : String) : Option Provenance := all.find? (·.name == s)

end Provenance

/-- Why a contributor or a filter fails. -/
structure Failure where
  message : String
  /-- The error about a document that lies below. -/
  cause : Option ContributionError := none
deriving DecidableEq, Repr

/-- The failure of a contributor whose document gives no contribution. -/
def ContributionError.toFailure (e : ContributionError) : Failure :=
  ⟨"contribution document is malformed", some e⟩

/-- What ends a build. -/
structure BuildError where
  /-- The contributor or the filter that fails. -/
  contributor : String
  failure : Failure
deriving DecidableEq, Repr

def BuildError.message (e : BuildError) : String :=
  "contributor '" ++ e.contributor ++ "' failed: " ++ e.failure.message

/-- What a contributor or a filter sees when it runs. -/
structure Context where
  /-- What the contributors before have registered. -/
  registry : Registry
  /-- Options of the application that the library does not look into. -/
  house : Document
  /-- The contributor that runs, or whose contribution is filtered. -/
  contributor : String

/-- One of those who contribute to a schema. -/
structure Contributor where
  id : String
  priority : Int32
  provenance : Provenance := .builtIn
  run : Context → Except Failure Contribution

/-- A change to the contribution of one contributor. -/
structure Filter where
  id : String
  /-- The contributor whose contribution is changed. -/
  target : String
  priority : Int32
  run : Context → Contribution → Except Failure Contribution

/-- Contributors and filters in the order in which they run, and what else a build depends on. -/
structure Pipeline where
  contributors : List Contributor
  filters : List Filter
  house : Document := .null
  /-- Defaults of the application, in the order in which they are supplied. -/
  defaults : List (String × Value) := []
  options : BuildOptions := {}
  /-- Whether an observer is told of conflicts. -/
  watched : Bool := false

/-- The result of a build. -/
structure BuildOutput where
  schema : Schema
  /-- What the checks found; nothing unless they run. -/
  findings : List Finding

namespace BuildOutput

/-- How many findings of a kind there are. -/
def count (o : BuildOutput) (kind : FindingKind) : Nat :=
  o.findings.countP (·.kind == kind)

/-- Whether there is a finding that is an error. -/
def hasErrors (o : BuildOutput) : Bool :=
  o.findings.any (·.severity == .error)

end BuildOutput

/-- What a build holds between two contributors. -/
structure BuildState where
  registry : Registry
  findings : List Finding := []
  /-- What the contributors returned, before any filter. -/
  returned : List (String × Contribution) := []

namespace Pipeline

/-- The contributors and filters in the order of their priorities; those with equal priorities stay
in the order in which they are given, and of contributors with one id the first is taken. -/
def ofLists (contributors : List Contributor) (filters : List Filter) : Pipeline where
  contributors :=
    (Keyed.ofList contributors : Keyed Contributor Contributor.id).toList.mergeSort
      fun a b => a.priority ≤ b.priority
  filters := filters.mergeSort fun a b => a.priority ≤ b.priority

/-- Sends a contribution through the filters for its contributor, one after the other. -/
def applyFilters (context : Context) :
    List Filter → Contribution → Except BuildError Contribution
  | [], c => .ok c
  | f :: rest, c =>
    if f.target == context.contributor then
      match f.run context c with
      | .ok c' => applyFilters context rest c'
      | .error failure => .error ⟨f.id, failure⟩
    else applyFilters context rest c

/-- The findings about conflicts that a registration reports. -/
def conflictFindings (contributor : Option String) (report : Report) : List Finding :=
  report.conflicts.map fun c => ⟨.mergeConflict, contributor, c.sectionId, c.message⟩

/-- What the checks find when a contribution is registered. -/
def registrationFindings (before : Registry) (contributor : Option String) (c : Contribution)
    (report : Report) : List Finding :=
  c.structureFindings contributor ++ before.duplicateFindings contributor c ++
    conflictFindings contributor report

/-- Runs a contributor and the filters for it, and registers what comes out. -/
def contribute (p : Pipeline) (st : BuildState) (c : Contributor) :
    Except BuildError BuildState :=
  let context : Context := ⟨st.registry, p.house, c.id⟩
  match c.run context with
  | .error failure => .error ⟨c.id, failure⟩
  | .ok returned =>
    match applyFilters context p.filters returned with
    | .error e => .error e
    | .ok filtered =>
      let (report, registry) := st.registry.register (some c.id) filtered
      .ok
        { registry
          findings := st.findings ++
            (if p.options.diagnostics then
              registrationFindings st.registry (some c.id) filtered report
            else [])
          returned := st.returned ++ [(c.id, returned)] }

/-- Runs contributors one after the other up to the first failure. -/
def contributeAll (p : Pipeline) : BuildState → List Contributor → BuildState × Option BuildError
  | st, [] => (st, none)
  | st, c :: rest =>
    match p.contribute st c with
    | .ok st' => p.contributeAll st' rest
    | .error e => (st, some e)

/-- The registry after the application's defaults. -/
def supplyDefaults (p : Pipeline) (r : Registry) : Registry :=
  p.defaults.foldl (fun r (id, v) => (r.supplyDefault id v).2) r

/-- The findings about defaults that are open at the end. -/
def openDefaultFindings (r : Registry) (returned : List (String × Contribution)) : List Finding :=
  returned.flatMap fun (id, c) => r.openDefaultFindings (some id) c

/-- What a build gives once all contributors have run. -/
def finish (p : Pipeline) (st : BuildState) : BuildOutput :=
  let registry := p.supplyDefaults st.registry
  { schema := registry.schema
    findings := st.findings ++
      (if p.options.diagnostics then openDefaultFindings registry st.returned else []) }

/-- Builds the schema from an empty registry: the conflicts that the observer is told of, and the
result. -/
def build (p : Pipeline) : List Conflict × Except BuildError BuildOutput :=
  let start : BuildState := { registry := if p.watched then Registry.watched else {} }
  let (st, failed) := p.contributeAll start p.contributors
  (st.registry.observed.getD [],
    match failed with
    | some e => .error e
    | none => .ok (p.finish st))

end Pipeline

end ThemeOptions
