import ThemeOptions.Finding

/-!
# Declarations and style sheets

The result of a compilation is a list of CSS declarations, each with the option it comes from.  A
style sheet writes runs of declarations with the same selector as one block.
-/

namespace ThemeOptions

/-- A CSS declaration of an option. -/
structure Declaration where
  selector : String
  property : String
  value : String
  optionId : String
  /-- Whether a preview can follow it without loading the page again. -/
  live : Bool
deriving DecidableEq, Repr

namespace Declaration

/-- How a preview follows a declaration. -/
def refresh (d : Declaration) : String :=
  if d.live then "live" else "reload"

/-- A declaration on one line. -/
def line (d : Declaration) : String :=
  d.selector ++ " \x7b " ++ d.property ++ ": " ++ d.value ++ " \x7d"

/-- The record of a declaration. -/
def toRecord (d : Declaration) : Document :=
  Record.fields
    [("selector", .string d.selector),
      ("property", .string d.property),
      ("value", .string d.value),
      ("option_id", .string d.optionId),
      ("refresh", .string d.refresh)]

end Declaration

/-- The style sheet of a list of declarations, inside a block with this selector if there is one. -/
def stylesheetFrom : Option String → List Declaration → String
  | none, [] => ""
  | some _, [] => "\x7d\n"
  | opened, d :: rest =>
    let start :=
      if opened = some d.selector then ""
      else (if opened.isSome then "\x7d\n" else "") ++ d.selector ++ " \x7b\n"
    start ++ "  " ++ d.property ++ ": " ++ d.value ++ ";\n" ++ stylesheetFrom (some d.selector) rest

/-- The style sheet of a list of declarations in their order. -/
def stylesheet (ds : List Declaration) : String :=
  stylesheetFrom none ds

/-- What a compilation gives: declarations in the order of the schema, and what is wrong with the
rules that have none. -/
structure Compiled where
  declarations : List Declaration := []
  findings : List Finding := []
deriving DecidableEq, Repr

namespace Compiled

/-- The declarations that a preview can follow. -/
def live (c : Compiled) : List Declaration := c.declarations.filter Declaration.live

/-- Whether the page has to be loaded again for some declaration. -/
def requiresReload (c : Compiled) : Bool := c.declarations.any fun d => !d.live

/-- The declarations of one option. -/
def forOption (c : Compiled) (id : String) : List Declaration :=
  c.declarations.filter (·.optionId == id)

def toStylesheet (c : Compiled) : String := stylesheet c.declarations

def toLiveStylesheet (c : Compiled) : String := stylesheet c.live

/-- The record of declarations alone. -/
def declarationsRecord (ds : List Declaration) : Document :=
  .sequence (ds.map Declaration.toRecord)

/-- The record of a compilation. -/
def toRecord (c : Compiled) : Document :=
  Record.fields
    [("declarations", declarationsRecord c.declarations),
      ("diagnostics", .sequence (c.findings.map Finding.toRecord))]

end Compiled

end ThemeOptions
