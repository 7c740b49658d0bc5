import ThemeOptions.CommandLine
import ThemeOptions.Compile
import ThemeOptions.Document.Json
import ThemeOptions.Manifest
import ThemeOptions.Yaml.Writer

/-!
# The program

What a command line gives, as a function of the files and of the environment: an exit code and what
is printed.  Findings go to the error output, and so does the trouble that ends the program.
-/

namespace ThemeOptions

/-- What ends the program: a message, and below it causes from the outside to the inside. -/
structure Trouble where
  message : String
  causes : List String := []
deriving DecidableEq, Repr

namespace Trouble

/-- Causes are numbered if there are several. -/
def causeLines : List String → List String
  | [cause] => ["    " ++ cause]
  | causes => causes.zipIdx.map fun (cause, n) => "    " ++ toString n ++ ": " ++ cause

/-- What is printed about trouble. -/
def lines (t : Trouble) : List String :=
  ("Error: " ++ t.message) ::
    (if t.causes.isEmpty then [] else "" :: "Caused by:" :: causeLines t.causes)

/-- The trouble about a build that a contributor ends. -/
def ofBuildError (manifest : String) (e : BuildError) : Trouble where
  message := "failed to build schema from " ++ manifest
  causes := e.message :: e.failure.message ::
    (e.failure.cause.map ContributionError.message).toList

/-- The trouble about a manifest that gives no pipeline. -/
def ofManifestError : ManifestError → Trouble
  | .filterDefaults id problem => ⟨"invalid defaults in filter '" ++ id ++ "'", [problem.message]⟩
  | .applicationDefaults problem => ⟨"invalid application defaults", [problem.message]⟩

end Trouble

/-- What the program leaves behind. -/
structure Output where
  exit : Nat
  stdout : String := ""
  stderr : String := ""
deriving DecidableEq, Repr

namespace Program

/-- Lines as text. -/
def unlines (lines : List String) : String := String.join (lines.map (· ++ "\n"))

/-- Reads the manifest at a path. -/
def loadManifest (files : Files) (path : String) : Except Trouble Manifest :=
  match files path with
  | .error e => .error ⟨"failed to read manifest " ++ path, [e.message]⟩
  | .ok text =>
    (Manifest.parse text).mapError fun e => ⟨"invalid manifest " ++ path, [e.message]⟩

/-- The pipeline of the manifest at a path.  The checks run if the manifest, the command line or the
environment asks for them. -/
def loadPipeline (files : Files) (setting : Option String) (path : String) (diagnostics : Bool) :
    Except Trouble Pipeline := do
  let m ← loadManifest files path
  let asked := diagnostics || (BuildOptions.ofVariable setting).diagnostics
  ({ m with diagnostics := m.diagnostics || asked }.pipeline files (Path.parent path)).mapError
    Trouble.ofManifestError

/-- Builds the schema of the manifest at a path. -/
def buildSchema (files : Files) (setting : Option String) (path : String) (diagnostics : Bool) :
    Except Trouble BuildOutput := do
  let p ← loadPipeline files setting path diagnostics
  p.build.2.mapError (Trouble.ofBuildError path)

/-- The values in the file at a path, a mapping from option ids to values or nothing. -/
def loadValues (files : Files) (path : String) : Except Trouble Source :=
  match files path with
  | .error e => .error ⟨"failed to read values " ++ path, [e.message]⟩
  | .ok text =>
    match Yaml.parse text with
    | .error e => .error ⟨"invalid values file " ++ path, [e.message]⟩
    | .ok .null => .ok (Source.constant .unset)
    | .ok (.mapping pairs) =>
      match readValues pairs with
      | .ok values => .ok (Source.ofPairs values)
      | .error problem => .error ⟨problem.message, []⟩
    | .ok _ => .error ⟨"values file " ++ path ++ " must be a mapping", []⟩

/-- The values that are compiled. -/
def valuesFor (schema : Schema) (saved : Source) (savedOnly : Bool) : Source :=
  if savedOnly then saved else saved.orElse schema.defaults

/-- A compilation in a format. -/
def showCompiled (c : Compiled) (liveOnly : Bool) : StylesheetFormat → String
  | .css => if liveOnly then c.toLiveStylesheet else c.toStylesheet
  | .json => Json.pretty (if liveOnly then Compiled.declarationsRecord c.live else c.toRecord)

/-- A schema in a format. -/
def showSchema (s : Schema) : SchemaFormat → String
  | .json => Json.pretty s.toRecord
  | .yaml => Yaml.write s.toRecord

/-- What a command prints: findings, and then its result or the trouble that ends it. -/
def execute (files : Files) (setting : Option String) :
    Command → List Finding × Except Trouble String
  | .build path values savedOnly liveOnly format diagnostics =>
    match buildSchema files setting path diagnostics with
    | .error t => ([], .error t)
    | .ok built =>
      match (values.map (loadValues files)).getD (.ok (Source.constant .unset)) with
      | .error t => (built.findings, .error t)
      | .ok saved =>
        let c := built.schema.compile (valuesFor built.schema saved savedOnly) Transforms.builtins
        (built.findings ++ c.findings, .ok (showCompiled c liveOnly format))
  | .schema path format diagnostics =>
    match buildSchema files setting path diagnostics with
    | .error t => ([], .error t)
    | .ok built => (built.findings, .ok (showSchema built.schema format))

/-- How the program is called. -/
def usage : String := unlines
  ["Usage: customify [-v] build --manifest <PATH> [--values <PATH>] [--saved-only] [--live-only]",
    "                            [--format css|json] [--diagnostics]",
    "       customify [-v] schema --manifest <PATH> [--format json|yaml] [--diagnostics]"]

/-- Runs the program. -/
def run (files : Files) (setting : Option String) (args : List String) : Output :=
  match CommandLine.parse args with
  | .error .usage => { exit := 2, stderr := usage }
  | .error .help => { exit := 0, stdout := usage }
  | .error .version => { exit := 0, stdout := "customify 0.4.0\n" }
  | .ok command =>
    let (findings, result) := execute files setting command
    let found := findings.map Finding.line
    match result with
    | .ok text => { exit := 0, stdout := Text.trimEnd text ++ "\n", stderr := unlines found }
    | .error t => { exit := 1, stderr := unlines (found ++ t.lines) }

end Program

end ThemeOptions
