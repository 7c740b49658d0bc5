import ThemeOptions.Contribution.Reading

/-!
# Errors about contribution documents

What a user is told when a contribution cannot be had: the text of the document cannot be parsed,
its shape or a value in it is wrong, or the file cannot be loaded.
-/

namespace ThemeOptions

/-- Why there is no contribution. -/
inductive ContributionError where
  | unparsable (message : String) (path : Option String)
  | malformed (location message : String) (path : Option String)
  | invalidValue (sectionId optionId field message : String)
  | unloadable (message : String)
deriving DecidableEq, Repr

namespace ContributionError

/-- Names the file of a document.  A value or a file that could not be loaded is told without it. -/
def withPath (path : String) : ContributionError → ContributionError
  | unparsable message _ => unparsable message (some path)
  | malformed location message _ => malformed location message (some path)
  | e => e

def message : ContributionError → String
  | unparsable message none => "Failed to parse contribution: " ++ message
  | unparsable message (some path) =>
    "Failed to parse contribution " ++ path ++ ": " ++ message
  | malformed location message none =>
    "Malformed contribution at '" ++ location ++ "': " ++ message
  | malformed location message (some path) =>
    "Malformed contribution at '" ++ location ++ "' in " ++ path ++ ": " ++ message
  | invalidValue sectionId optionId field message =>
    "Invalid '" ++ field ++ "' for option '" ++ sectionId ++ "." ++ optionId ++ "': " ++ message
  | unloadable message => "Failed to load contribution: " ++ message

/-- Where an option stands in its document. -/
def optionPath (sectionId optionId : String) : String :=
  sectionId ++ ".options." ++ optionId

/-- What a user is told about an offence inside an option. -/
def ofOptionOffence (sectionId optionId : String) : OptionOffence → ContributionError
  | .notMapping => malformed (optionPath sectionId optionId) "option must be a mapping" none
  | .badDefault problem => invalidValue sectionId optionId "default" problem.message
  | .cssNotList =>
    malformed (optionPath sectionId optionId ++ ".css") "css must be a list of rules" none
  | .ruleNotMapping index =>
    malformed (optionPath sectionId optionId ++ ".css[" ++ toString index ++ "]")
      "css rule must be a mapping" none
  | .fieldsNotMapping =>
    malformed (optionPath sectionId optionId ++ ".fields")
      "fields must be a mapping of font sub-fields" none

/-- What a user is told about an offence. -/
def ofOffence : Offence → ContributionError
  | .rootNotMapping => malformed "<root>" "contribution must be a mapping of sections" none
  | .sectionKey key => malformed key.describe "section id must be a string" none
  | .sectionNotMapping id => malformed id "section must be a mapping" none
  | .optionsNotMapping id =>
    malformed (id ++ ".options") "options must be a mapping of option ids" none
  | .optionKey sectionId => malformed (sectionId ++ ".options") "option id must be a string" none
  | .option sectionId optionId offence => ofOptionOffence sectionId optionId offence

end ContributionError

end ThemeOptions
