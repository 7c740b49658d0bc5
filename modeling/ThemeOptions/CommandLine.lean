/-!
# The command line

Two commands: `build` compiles the current values into a style sheet, and `schema` shows what all
contributors offer together.  Options may stand in any order, but no option twice; `-v` may stand
before the command and behind it.
-/

namespace ThemeOptions

/-- How a compilation is shown. -/
inductive StylesheetFormat where
  | css
  | json
deriving DecidableEq, Repr

/-- How a schema is shown. -/
inductive SchemaFormat where
  | json
  | yaml
deriving DecidableEq, Repr

def StylesheetFormat.parse? : String → Option StylesheetFormat
  | "css" => some css
  | "json" => some json
  | _ => none

def SchemaFormat.parse? : String → Option SchemaFormat
  | "json" => some json
  | "yaml" => some yaml
  | _ => none

/-- A command, with the path of its manifest. -/
inductive Command where
  /-- Compiles the values in a file, if there is one, and the defaults unless it is `savedOnly`. -/
  | build (manifest : String) (values : Option String) (savedOnly liveOnly : Bool)
      (format : StylesheetFormat) (diagnostics : Bool)
  | schema (manifest : String) (format : SchemaFormat) (diagnostics : Bool)
deriving DecidableEq, Repr

namespace CommandLine

/-- Why a command line gives no command. -/
inductive Stop where
  /-- It is wrong. -/
  | usage
  /-- It asks for help. -/
  | help
  /-- It asks for the version. -/
  | version
deriving DecidableEq, Repr

/-- An option: a flag, or one with a value of some form. -/
structure Opt where
  long : String
  short : Option Char := none
  /-- The values that are accepted; a flag has none. -/
  accepts : Option (String → Bool) := none

/-- The options that a command line sets, with their values. -/
abbrev Settings := List (String × String)

/-- Whether an argument is an option and not a value. -/
def isOption (arg : String) : Bool :=
  arg.toList.head? == some '-' && arg != "-"

/-- Sets an option that is not set yet to a value that it accepts. -/
def assign (set : Settings) (o : Opt) (value : String) : Except Stop Settings :=
  if set.any (·.1 == o.long) then .error .usage
  else if (o.accepts.getD fun _ => true) value then .ok (set ++ [(o.long, value)])
  else .error .usage

/-- The value of an option, which stands behind it in the same argument or is the next one, and the
arguments behind it. -/
def takeValue (attached : Option (List Char)) (rest : List String) :
    Except Stop (String × List String) :=
  match attached, rest with
  | some cs, _ => .ok (String.ofList cs, rest)
  | none, arg :: rest => if isOption arg then .error .usage else .ok (arg, rest)
  | none, [] => .error .usage

/-- Reads an argument of short options, and the arguments that it takes along. -/
def readShort (opts : List Opt) (versioned : Bool) (rest : List String) :
    Settings → List Char → Except Stop (Settings × List String)
  | set, [] => .ok (set, rest)
  | set, c :: cs =>
    match opts.find? (·.short == some c) with
    | some o =>
      if o.accepts.isNone then do readShort opts versioned rest (← assign set o "") cs
      else do
        let attached :=
          match cs with
          | [] => none
          | '=' :: value => some value
          | value => some value
        let (value, rest) ← takeValue attached rest
        return (← assign set o value, rest)
    | none =>
      if c == 'h' then .error .help
      else if c == 'V' && versioned then .error .version
      else .error .usage

/-- Reads a long option, and the arguments that it takes along. -/
def readLong (opts : List Opt) (versioned : Bool) (rest : List String) (set : Settings)
    (body : List Char) : Except Stop (Settings × List String) :=
  let name := String.ofList (body.takeWhile (· != '='))
  let attached :=
    match body.dropWhile (· != '=') with
    | [] => none
    | _ :: value => some value
  match opts.find? (·.long == name) with
  | some o =>
    if o.accepts.isNone then
      if attached.isSome then .error .usage
      else (assign set o "").map fun set => (set, rest)
    else do
      let (value, rest) ← takeValue attached rest
      return (← assign set o value, rest)
  | none =>
    if attached.isSome then .error .usage
    else if name == "help" then .error .help
    else if name == "version" && versioned then .error .version
    else .error .usage

/-- Reads options up to the first argument that is none. -/
def readOptions (opts : List Opt) (versioned : Bool) :
    Nat → Settings → List String → Except Stop (Settings × List String)
  | 0, set, args => .ok (set, args)
  | _ + 1, set, [] => .ok (set, [])
  | fuel + 1, set, arg :: rest =>
    match arg.toList with
    | ['-', '-'] => if rest.isEmpty then .ok (set, []) else .error .usage
    | '-' :: '-' :: body => do
      let (set, rest) ← readLong opts versioned rest set body
      readOptions opts versioned fuel set rest
    | '-' :: c :: cs => do
      let (set, rest) ← readShort opts versioned rest set (c :: cs)
      readOptions opts versioned fuel set rest
    | _ => .ok (set, arg :: rest)

/-- Reads arguments that have to be options. -/
def readAll (opts : List Opt) (args : List String) : Except Stop Settings :=
  match readOptions opts false (args.length + 1) [] args with
  | .ok (set, []) => .ok set
  | .ok (_, _ :: _) => .error .usage
  | .error stop => .error stop

/-- Any path but the empty one. -/
def isPath (value : String) : Bool := !value.isEmpty

def verboseOpt : Opt := { long := "verbose", short := some 'v' }

def manifestOpt : Opt := { long := "manifest", short := some 'm', accepts := some isPath }

def diagnosticsOpt : Opt := { long := "diagnostics" }

/-- The format option, with the formats that it accepts. -/
def formatOpt {α : Type} (parse? : String → Option α) : Opt :=
  { long := "format", accepts := some fun value => (parse? value).isSome }

def buildOpts : List Opt :=
  [verboseOpt, manifestOpt, { long := "values", accepts := some isPath },
    { long := "saved-only" }, { long := "live-only" }, formatOpt StylesheetFormat.parse?,
    diagnosticsOpt]

def schemaOpts : List Opt :=
  [verboseOpt, manifestOpt, formatOpt SchemaFormat.parse?, diagnosticsOpt]

/-- Whether a flag is set. -/
def isSet (set : Settings) (name : String) : Bool := (set.lookup name).isSome

/-- The format that is set, or the standard one. -/
def format {α : Type} (parse? : String → Option α) (standard : α) (set : Settings) : α :=
  ((set.lookup "format").bind parse?).getD standard

/-- The manifest, without which there is no command. -/
def manifest (set : Settings) : Except Stop String :=
  match set.lookup "manifest" with
  | some path => .ok path
  | none => .error .usage

/-- The command with a name and options. -/
def readCommand (name : String) (args : List String) : Except Stop Command := do
  match name with
  | "build" =>
    let set ← readAll buildOpts args
    return .build (← manifest set) (set.lookup "values") (isSet set "saved-only")
      (isSet set "live-only") (format StylesheetFormat.parse? .css set) (isSet set "diagnostics")
  | "schema" =>
    let set ← readAll schemaOpts args
    return .schema (← manifest set) (format SchemaFormat.parse? .json set)
      (isSet set "diagnostics")
  | "help" =>
    if args.length ≤ 1 && args.all ["build", "schema", "help"].contains then throw .help
    else throw .usage
  | _ => throw .usage

/-- The command that a command line asks for. -/
def parse (args : List String) : Except Stop Command := do
  let (_, rest) ← readOptions [verboseOpt] true (args.length + 1) [] args
  match rest with
  | [] => throw .usage
  | name :: rest => readCommand name rest

end CommandLine

end ThemeOptions
