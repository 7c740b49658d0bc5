import ThemeOptions.Contribution.Error
import ThemeOptions.Files
import ThemeOptions.Yaml.Reading

/-!
# Loading contributions

A contribution may stand in a text or in a file.  What goes wrong is told with the path of the file
where that is of use.
-/

namespace ThemeOptions

namespace Contribution

/-- The contribution that a text holds. -/
def parse (text : String) : Except ContributionError Contribution :=
  match Yaml.parse text with
  | .error e => .error (.unparsable e.message none)
  | .ok d => (ofDocument d).mapError ContributionError.ofOffence

/-- The contribution in a file. -/
def load (files : Files) (path : String) : Except ContributionError Contribution :=
  match files path with
  | .error e => .error (.unloadable (path ++ ": " ++ e.message))
  | .ok text => (parse text).mapError (·.withPath path)

end Contribution

end ThemeOptions
