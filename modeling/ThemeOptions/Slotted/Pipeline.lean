import ThemeOptions.Pipeline
import ThemeOptions.Slotted.Registry

/-!
# The pipeline with callbacks that can do anything

Here a contributor or a filter may return any contribution, with options and sections out of their
places.  It may also register on copies of the registry that it sees: these have the same observer,
who hears of the conflicts there, though the build knows nothing of them.  What a callback gives is
therefore a list of such conflicts beside its result.  The pipelines of `ThemeOptions.Pipeline` are
the case in which there are none and everything stands in its place.

A build keeps a record of the turns of its contributors, and the checks look at that.
-/

namespace ThemeOptions.Slotted

/-! ### The checks -/

/-- What the structural check finds in a section. -/
def Section.structureFindings (contributor : Option String) (s : Section) : List Finding :=
  s.head.structureFindings contributor ++
    s.entries.flatMap fun e =>
      e.problems.map fun p => ⟨.structuralViolation, contributor, e.id, p.message e⟩

/-- What the structural check finds in a contribution. -/
def Contribution.structureFindings (contributor : Option String) (c : Contribution) :
    List Finding :=
  c.items.flatMap (Section.structureFindings contributor)

/-- The sections of a contribution whose ids are free. -/
def Registry.freeSections (r : Registry) (c : Contribution) : List Section :=
  c.items.filter fun s => !r.sections.contains s.id

/-- What the check for duplicates finds in a contribution that is about to be registered. -/
def Registry.duplicateFindings (r : Registry) (contributor : Option String) (c : Contribution) :
    List Finding :=
  (taken (fun id => (r.entry? id).isSome) [] (Schema.entries ⟨r.freeSections c⟩)).map fun (s, e) =>
    duplicateFinding contributor s.head e

/-- The options of a section that are open in it and, under their ids, in its registered form. -/
def Section.openIn (s registered : Section) : List Entry :=
  s.entries.filter fun e =>
    e.hasUnsetDefault && (registered.option? e.id).any Entry.hasUnsetDefault

/-- What the check for open defaults finds, given the contribution as it was returned. -/
def Registry.openDefaultFindings (r : Registry) (contributor : Option String)
    (returned : Contribution) : List Finding :=
  returned.items.flatMap fun s =>
    match r.section? s.id with
    | none => []
    | some registered =>
      if registered.origin == contributor then
        (s.openIn registered).map (openDefaultFinding contributor s.head)
      else []

/-! ### Pipelines -/

/-- What a contributor or a filter sees when it runs. -/
structure Context where
  /-- What the contributors before have registered. -/
  registry : Registry
  /-- Options of the application that the library does not look into. -/
  house : Document
  /-- The contributor that runs, or whose contribution is filtered. -/
  contributor : String

/-- One of those who contribute to a schema. -/
structure Contributor where
  id : String
  priority : Int32
  provenance : Provenance := .builtIn
  /-- The conflicts on copies of the registry, and the result. -/
  run : Context → List Conflict × Except Failure Contribution

/-- A change to the contribution of one contributor. -/
structure Filter where
  id : String
  /-- The contributor whose contribution is changed. -/
  target : String
  priority : Int32
  /-- The conflicts on copies of the registry, and the result. -/
  run : Context → Contribution → List Conflict × Except Failure Contribution

/-- Contributors and filters in the order in which they run, and what else a build depends on. -/
structure Pipeline where
  contributors : List Contributor
  filters : List Filter
  house : Document := .null
  /-- Defaults of the application, in the order in which they are supplied. -/
  defaults : List (String × Value) := []
  options : BuildOptions := {}
  /-- Whether an observer is told of conflicts. -/
  watched : Bool := false

/-- The result of a build. -/
structure BuildOutput where
  schema : Schema
  /-- What the checks found; nothing unless they run. -/
  findings : List Finding

/-- How many findings of a kind there are. -/
def BuildOutput.count (o : BuildOutput) (kind : FindingKind) : Nat :=
  o.findings.countP (·.kind == kind)

/-! ### Turns -/

/-- What happened when a contributor ran. -/
structure Turn where
  contributor : String
  /-- What was registered before. -/
  seen : Registry
  /-- The conflicts that the contributor and its filters caused on copies of the registry. -/
  caused : List Conflict
  returned : Contribution
  /-- What the filters for the contributor made of it. -/
  filtered : Contribution

namespace Turn

/-- What the registration reports. -/
def report (t : Turn) : Report := (t.seen.register (some t.contributor) t.filtered).1

/-- What is registered afterwards. -/
def registry (t : Turn) : Registry :=
  ((t.seen.tell t.caused).register (some t.contributor) t.filtered).2

/-- What the checks find at the registration. -/
def findings (t : Turn) : List Finding :=
  t.filtered.structureFindings (some t.contributor) ++
    t.seen.duplicateFindings (some t.contributor) t.filtered ++
    ThemeOptions.Pipeline.conflictFindings (some t.contributor) t.report

end Turn

/-- What a build holds between two contributors. -/
structure BuildState where
  registry : Registry
  turns : List Turn := []

/-- The state after one more turn. -/
def BuildState.next (st : BuildState) (t : Turn) : BuildState where
  registry := t.registry
  turns := st.turns ++ [t]

namespace Pipeline

/-- The contributors and filters in the order of their priorities; those with equal priorities stay
in the order in which they are given, and of contributors with one id the first is taken. -/
def ofLists (contributors : List Contributor) (filters : List Filter) : Pipeline where
  contributors :=
    (Keyed.ofList contributors : Keyed Contributor Contributor.id).toList.mergeSort
      fun a b => a.priority ≤ b.priority
  filters := filters.mergeSort fun a b => a.priority ≤ b.priority

/-- Sends a contribution through the filters for its contributor, one after the other. -/
def applyFilters (context : Context) :
    List Filter → Contribution → List Conflict × Except BuildError Contribution
  | [], c => ([], .ok c)
  | f :: rest, c =>
    if f.target == context.contributor then
      match f.run context c with
      | (caused, .error failure) => (caused, .error ⟨f.id, failure⟩)
      | (caused, .ok c') =>
        let (later, result) := applyFilters context rest c'
        (caused ++ later, result)
    else applyFilters context rest c

/-- Runs a contributor and the filters for it: the conflicts on copies of the registry, and what it
returned together with what came through the filters. -/
def bring (p : Pipeline) (context : Context) (c : Contributor) :
    List Conflict × Except BuildError (Contribution × Contribution) :=
  match c.run context with
  | (caused, .error failure) => (caused, .error ⟨c.id, failure⟩)
  | (caused, .ok returned) =>
    let (later, result) := applyFilters context p.filters returned
    (caused ++ later, result.map fun filtered => (returned, filtered))

/-- Lets a contributor have its turn, and registers what comes out. -/
def contribute (p : Pipeline) (st : BuildState) (c : Contributor) :
    BuildState × Option BuildError :=
  match p.bring ⟨st.registry, p.house, c.id⟩ c with
  | (caused, .error e) => ({ st with registry := st.registry.tell caused }, some e)
  | (caused, .ok (returned, filtered)) =>
    (st.next ⟨c.id, st.registry, caused, returned, filtered⟩, none)

/-- Runs contributors one after the other up to the first failure. -/
def contributeAll (p : Pipeline) : BuildState → List Contributor → BuildState × Option BuildError
  | st, [] => (st, none)
  | st, c :: rest =>
    match p.contribute st c with
    | (st', none) => p.contributeAll st' rest
    | (st', some e) => (st', some e)

/-- Where a build starts. -/
def start (p : Pipeline) : BuildState :=
  { registry := if p.watched then Registry.watched else {} }

/-- The registry after the application's defaults. -/
def supplyDefaults (p : Pipeline) (r : Registry) : Registry :=
  p.defaults.foldl (fun r (id, v) => (r.supplyDefault id v).2) r

/-- What a build gives once all contributors have run. -/
def finish (p : Pipeline) (st : BuildState) : BuildOutput :=
  let registry := p.supplyDefaults st.registry
  { schema := registry.schema
    findings :=
      if p.options.diagnostics then
        st.turns.flatMap Turn.findings ++
          st.turns.flatMap fun t => registry.openDefaultFindings (some t.contributor) t.returned
      else [] }

/-- Builds the schema from an empty registry: the conflicts that the observer is told of, and the
result. -/
def build (p : Pipeline) : List Conflict × Except BuildError BuildOutput :=
  let (st, failed) := p.contributeAll p.start p.contributors
  (st.registry.observed.getD [],
    match failed with
    | some e => .error e
    | none => .ok (p.finish st))

/-- The turns of the contributors in a build, up to the first failure. -/
def turns (p : Pipeline) : List Turn := (p.contributeAll p.start p.contributors).1.turns

/-- What comes through the filters stands under its own ids. -/
def InPlace (p : Pipeline) : Prop := ∀ t ∈ p.turns, t.filtered.InPlace

/-- The registry once all contributors have run and the application's defaults are in. -/
def merged (p : Pipeline) : Registry :=
  p.supplyDefaults (p.contributeAll p.start p.contributors).1.registry

/-- The same pipeline with a further default of the application, supplied last. -/
def supplying (p : Pipeline) (id : String) (v : Value) : Pipeline :=
  { p with defaults := p.defaults ++ [(id, v)] }

end Pipeline

end ThemeOptions.Slotted
