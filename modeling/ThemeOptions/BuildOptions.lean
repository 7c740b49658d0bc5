import ThemeOptions.Record
import ThemeOptions.Yaml.Reading

/-!
# Build options

What may be chosen about a build, by the value of an environment variable or by a document.
-/

namespace ThemeOptions

/-- How a schema is built. -/
structure BuildOptions where
  /-- Whether the checks run. -/
  diagnostics : Bool := false
deriving DecidableEq, Repr

namespace BuildOptions

/-- The environment variable that switches the checks on. -/
def variableName : String := "CUSTOMIFY_DIAGNOSTICS"

/-- The options that the value of the variable asks for, if it is set. -/
def ofVariable (value : Option String) : BuildOptions where
  diagnostics := value.any Text.isTruthy

/-- The record of build options. -/
def toRecord (o : BuildOptions) : Document :=
  Record.fields [("diagnostics", .bool o.diagnostics)]

/-- Reads the text of build options.  A field that is missing keeps its standard value, and one that
is not known is passed over. -/
def parse (text : String) : Except Yaml.Error BuildOptions :=
  Yaml.readText (fun n => do
    let known ← Yaml.Reader.record false ["diagnostics"] n
    return { diagnostics := ← Yaml.Reader.field known "diagnostics" (pure false) Yaml.Reader.bool })
    text

end BuildOptions

end ThemeOptions
