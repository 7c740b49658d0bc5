import Mathlib.Control.Monad.Basic
import ThemeOptions.Program
import ThemeOptions.Proofs.Build

/-!
# Diagnostics mode changes no result

The checks run beside the build and never into it: a build with the checks off is the build with
them on without its findings (`build_off`).  The proof follows a build step by step, and forgets
(`BuildState.quiet`) what the checks have found so far.  On the command line the flag hence changes
only what goes to the error output (`diagnostics_only_report`).
-/

namespace ThemeOptions

/-! ### Builds -/

/-- A state without what the checks found. -/
def BuildState.quiet (st : BuildState) : BuildState := { st with findings := [] }

/-- A result without what the checks found. -/
def BuildOutput.quiet (out : BuildOutput) : BuildOutput := { out with findings := [] }

namespace Pipeline

/-- The same pipeline with the checks on or off. -/
def withDiagnostics (p : Pipeline) (on : Bool) : Pipeline :=
  { p with options := { p.options with diagnostics := on } }

variable (p : Pipeline) (on : Bool)

theorem accept_off (st : BuildState) (id : String) (returned filtered : Contribution) :
    (p.withDiagnostics false).accept st.quiet id returned filtered =
      ((p.withDiagnostics on).accept st id returned filtered).quiet := rfl

theorem contribute_off (st : BuildState) (c : Contributor) :
    (p.withDiagnostics false).contribute st.quiet c =
      ((p.withDiagnostics on).contribute st c).map BuildState.quiet := by
  have hcontext : (p.withDiagnostics false).context st.quiet c.id =
      (p.withDiagnostics on).context st c.id := rfl
  have hfilters : (p.withDiagnostics false).filters = (p.withDiagnostics on).filters := rfl
  rw [contribute_eq, contribute_eq, hcontext, hfilters]
  cases c.run ((p.withDiagnostics on).context st c.id) with
  | error failure => rfl
  | ok returned =>
    show (applyFilters _ _ returned).map _ = ((applyFilters _ _ returned).map _).map _
    cases applyFilters ((p.withDiagnostics on).context st c.id) (p.withDiagnostics on).filters
      returned with
    | error e => rfl
    | ok filtered => exact congrArg Except.ok (accept_off p on st c.id returned filtered)

theorem contributeAll_off (st : BuildState) (l : List Contributor) :
    (p.withDiagnostics false).contributeAll st.quiet l =
      (((p.withDiagnostics on).contributeAll st l).1.quiet,
        ((p.withDiagnostics on).contributeAll st l).2) := by
  induction l generalizing st with
  | nil => rfl
  | cons c rest ih =>
    rw [contributeAll, contributeAll, contribute_off p on]
    cases (p.withDiagnostics on).contribute st c with
    | error e => rfl
    | ok st' => exact ih st'

theorem finish_off (st : BuildState) :
    (p.withDiagnostics false).finish st.quiet = ((p.withDiagnostics on).finish st).quiet := rfl

/-- A build with the checks off is one with the checks on or off, without its findings. -/
theorem build_off :
    (p.withDiagnostics false).build =
      ((p.withDiagnostics on).build.1, (p.withDiagnostics on).build.2.map BuildOutput.quiet) := by
  have hrun : (p.withDiagnostics false).contributeAll (p.withDiagnostics false).start
      (p.withDiagnostics false).contributors =
        (((p.withDiagnostics on).contributeAll (p.withDiagnostics on).start
          (p.withDiagnostics on).contributors).1.quiet,
        ((p.withDiagnostics on).contributeAll (p.withDiagnostics on).start
          (p.withDiagnostics on).contributors).2) :=
    contributeAll_off p on (p.withDiagnostics on).start p.contributors
  refine Prod.ext ?_ ?_
  · rw [build_fst, build_fst, hrun]
    rfl
  · rw [build_snd, build_snd, hrun, finish_off p on]
    cases ((p.withDiagnostics on).contributeAll (p.withDiagnostics on).start
      (p.withDiagnostics on).contributors).2 with
    | some e => rfl
    | none => rfl

theorem schema_build :
    (p.withDiagnostics on).build.2.map BuildOutput.schema =
      (p.withDiagnostics false).build.2.map BuildOutput.schema := by
  rw [build_off p on]
  cases (p.withDiagnostics on).build.2 with
  | error e => rfl
  | ok out => rfl

end Pipeline

/-! ### The command line -/

/-- The same command with or without the flag that asks for the checks. -/
def Command.withDiagnostics (on : Bool) : Command → Command
  | .build manifest values savedOnly liveOnly format _ =>
    .build manifest values savedOnly liveOnly format on
  | .schema manifest format _ => .schema manifest format on

/-- The setting of a manifest is the setting of its pipeline, and nothing else in it. -/
theorem Manifest.pipeline_withDiagnostics (m : Manifest) (on : Bool) (files : Files)
    (directory : String) :
    { m with diagnostics := on }.pipeline files directory =
      (m.pipeline files directory).map (·.withDiagnostics on) := by
  unfold pipeline
  cases m.filters.mapM filter with
  | error e => rfl
  | ok filters =>
    cases readValues m.defaults with
    | error e => simp [bind, Except.bind, Except.map, Except.mapError]
    | ok defaults =>
      simp [bind, Except.bind, Except.map, Except.mapError, pure, Except.pure,
        Pipeline.withDiagnostics]

namespace Program

theorem loadPipeline_eq (files : Files) (setting : Option String) (path : String) (on : Bool) :
    loadPipeline files setting path on = (loadManifest files path).bind fun m =>
      ((m.pipeline files (Path.parent path)).map (·.withDiagnostics
        (m.diagnostics || (on || (BuildOptions.ofVariable setting).diagnostics)))).mapError
          Trouble.ofManifestError := by
  unfold loadPipeline
  cases loadManifest files path with
  | error t => rfl
  | ok m =>
    exact congrArg (Except.mapError Trouble.ofManifestError)
      (m.pipeline_withDiagnostics _ files (Path.parent path))

theorem map_mapError {ε ε' α β : Type} (x : Except ε α) (f : ε → ε') (g : α → β) :
    (x.mapError f).map g = (x.map g).mapError f := by
  cases x with
  | error e => rfl
  | ok a => rfl

/-- Whether a schema is built, and which, does not depend on the flag. -/
theorem schema_buildSchema (files : Files) (setting : Option String) (path : String) (on : Bool) :
    (buildSchema files setting path on).map BuildOutput.schema =
      (buildSchema files setting path false).map BuildOutput.schema := by
  unfold buildSchema
  rw [loadPipeline_eq, loadPipeline_eq]
  cases loadManifest files path with
  | error t => rfl
  | ok m =>
    cases hp : m.pipeline files (Path.parent path) with
    | error e => simp only [bind, Except.bind, hp, Except.map, Except.mapError]
    | ok p =>
      simp only [bind, Except.bind, hp, Except.map, Except.mapError]
      show ((p.withDiagnostics _).build.2.mapError _).map _ =
        ((p.withDiagnostics _).build.2.mapError _).map _
      rw [map_mapError, map_mapError, p.schema_build, p.schema_build (_ || _)]

/-- What a `build` prints on the standard output hangs on the schema alone. -/
theorem execute_build (files : Files) (setting : Option String) (path : String)
    (values : Option String) (savedOnly liveOnly : Bool) (format : StylesheetFormat) (on : Bool) :
    (execute files setting (.build path values savedOnly liveOnly format on)).2 =
      ((buildSchema files setting path on).map BuildOutput.schema).bind fun schema =>
        ((values.map (loadValues files)).getD (.ok (Source.constant .unset))).map fun saved =>
          showCompiled (schema.compile (valuesFor schema saved savedOnly) Transforms.builtins)
            liveOnly format := by
  cases hbuilt : buildSchema files setting path on with
  | error t => simp only [execute, hbuilt, Except.map, Except.bind]
  | ok built =>
    cases hsaved : (values.map (loadValues files)).getD (.ok (Source.constant .unset)) with
    | error t => simp only [execute, hbuilt, hsaved, Except.map, Except.bind]
    | ok saved => simp only [execute, hbuilt, hsaved, Except.map, Except.bind]

theorem execute_schema (files : Files) (setting : Option String) (path : String)
    (format : SchemaFormat) (on : Bool) :
    (execute files setting (.schema path format on)).2 =
      ((buildSchema files setting path on).map BuildOutput.schema).map (showSchema · format) := by
  cases hbuilt : buildSchema files setting path on with
  | error t => simp only [execute, hbuilt, Except.map]
  | ok built => simp only [execute, hbuilt, Except.map]

theorem execute_withDiagnostics (files : Files) (setting : Option String) (command : Command)
    (on : Bool) :
    (execute files setting (command.withDiagnostics on)).2 =
      (execute files setting (command.withDiagnostics false)).2 := by
  cases command with
  | build path values savedOnly liveOnly format asked =>
    show (execute files setting (.build path values savedOnly liveOnly format on)).2 =
      (execute files setting (.build path values savedOnly liveOnly format false)).2
    rw [execute_build, execute_build, schema_buildSchema]
  | schema path format asked =>
    show (execute files setting (.schema path format on)).2 =
      (execute files setting (.schema path format false)).2
    rw [execute_schema, execute_schema, schema_buildSchema]

/-- What a command prints on the standard output, and its exit code, hang on its result alone. -/
theorem run_of_parse (files : Files) (setting : Option String) {args : List String}
    {command : Command} (hparse : CommandLine.parse args = .ok command) :
    ((run files setting args).stdout, (run files setting args).exit) =
      match (execute files setting command).2 with
      | .ok text => (Text.trimEnd text ++ "\n", 0)
      | .error _ => ("", 1) := by
  unfold run
  rw [hparse]
  cases h : (execute files setting command).2 with
  | ok text => simp only [h]
  | error t => simp only [h]

end Program

/-- With the checks on or off a build shows the observer the same conflicts and ends in the same
schema or in the same failure, and with the checks off it finds nothing.  Command lines that differ
in the flag alone print the same on the standard output and end with the same exit code. -/
theorem diagnostics_only_report :
    (∀ p : Pipeline,
      (p.withDiagnostics true).build.1 = (p.withDiagnostics false).build.1 ∧
      (p.withDiagnostics true).build.2.map BuildOutput.schema =
        (p.withDiagnostics false).build.2.map BuildOutput.schema ∧
      ∀ out, (p.withDiagnostics false).build.2 = .ok out → out.findings = []) ∧
    ∀ (files : Files) (setting : Option String) (args args' : List String) (command : Command),
      CommandLine.parse args = .ok (command.withDiagnostics true) →
      CommandLine.parse args' = .ok (command.withDiagnostics false) →
      (Program.run files setting args).stdout = (Program.run files setting args').stdout ∧
        (Program.run files setting args).exit = (Program.run files setting args').exit := by
  refine ⟨fun p => ⟨?_, p.schema_build true, ?_⟩, ?_⟩
  · rw [p.build_off true]
  · intro out hout
    rw [p.build_off true] at hout
    cases hbuild : (p.withDiagnostics true).build.2 with
    | error e =>
      rw [hbuild] at hout
      cases hout
    | ok loud =>
      rw [hbuild] at hout
      cases hout
      rfl
  · intro files setting args args' command hargs hargs'
    have hrun := Program.run_of_parse files setting hargs
    rw [Program.execute_withDiagnostics, ← Program.run_of_parse files setting hargs'] at hrun
    exact Prod.mk.inj hrun

/-- A theme that paints links red, from a section without a title. -/
def Sample.untitled : Files
  | "theme.yaml" => .ok "contributors: [{id: theme, file: colors.yaml}]"
  | "colors.yaml" => .ok
    "colors: {options: {accent: {default: red, css: [{property: color, selector: a}]}}}"
  | _ => .error .notFound

/-- Only the first of these commands says that the title is missing. -/
theorem diagnostics_only_report_untitled :
    (Program.run Sample.untitled none ["build", "--diagnostics", "-m", "theme.yaml"]).stdout =
        (Program.run Sample.untitled none ["build", "-m", "theme.yaml"]).stdout ∧
      (Program.run Sample.untitled none ["build", "--diagnostics", "-m", "theme.yaml"]).exit =
        (Program.run Sample.untitled none ["build", "-m", "theme.yaml"]).exit := by
  exact diagnostics_only_report.2 Sample.untitled none
    ["build", "--diagnostics", "-m", "theme.yaml"] ["build", "-m", "theme.yaml"]
    (.build "theme.yaml" none false false .css false) (by decide +kernel) (by decide +kernel)

end ThemeOptions
