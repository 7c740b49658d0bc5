import ThemeOptions.Program

/-!
# The command

Reads the files that a command line needs, runs the program on them, and prints what it gives.
-/

namespace ThemeOptions.Program

/-- The cause that the system gives by a number, which may come with its sign turned. -/
def fileErrorOfCode? (code : UInt32) : Option FileError :=
  match min code (0 - code) with
  | 2 => some .notFound
  | 20 => some .notDirectory
  | 21 => some .isDirectory
  | 36 => some .tooLong
  | _ => none

/-- Why reading a file failed. -/
def fileError (e : IO.Error) : FileError :=
  let known :=
    match e with
    | .noFileOrDirectory _ code _ => fileErrorOfCode? code
    | .inappropriateType _ code _ => fileErrorOfCode? code
    | .invalidArgument _ code _ => fileErrorOfCode? code
    | _ => none
  known.getD (.other (toString e))

/-- The text of a file, or why there is none. -/
def readFile (path : String) : IO (Except FileError String) := do
  match Path.fault? path with
  | some e => return .error e
  | none =>
    try
      return .ok (← IO.FS.readFile path)
    catch e =>
      return .error (fileError e)

/-- The files of the contributors of a manifest. -/
def contributionPaths (path text : String) : List String :=
  match Manifest.parse text with
  | .ok m => m.contributors.map fun spec => Path.join (Path.parent path) spec.file
  | .error _ => []

/-- The paths that a command names itself: its manifest, and its values. -/
def commandPaths : Command → String × List String
  | .build manifest values _ _ _ _ => (manifest, values.toList)
  | .schema manifest _ _ => (manifest, [])

/-- The files that a command needs, by path. -/
def snapshot (command : Command) : IO (List (String × Except FileError String)) := do
  let (manifest, others) := commandPaths command
  let first ← readFile manifest
  let contributions :=
    match first with
    | .ok text => contributionPaths manifest text
    | .error _ => []
  let rest ← (others ++ contributions).mapM fun path => return (path, ← readFile path)
  return (manifest, first) :: rest

end ThemeOptions.Program

open ThemeOptions in
/-- Runs the program on the files of the system. -/
def main (args : List String) : IO UInt32 := do
  let known ←
    match CommandLine.parse args with
    | .ok command => Program.snapshot command
    | .error _ => pure []
  let files : Files := fun path => (known.lookup path).getD (.error .notFound)
  let out := Program.run files (← IO.getEnv BuildOptions.variableName) args
  (← IO.getStdout).putStr out.stdout
  (← IO.getStderr).putStr out.stderr
  return out.exit.toUInt32
