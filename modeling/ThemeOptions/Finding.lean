import ThemeOptions.Record

/-!
# Findings

A finding is something wrong with a schema or with the values compiled against it.  It stops
nothing: what can go on goes on, and the findings are handed over beside the result.
-/

namespace ThemeOptions

/-- How grave a finding is. -/
inductive Severity where
  | info
  | warning
  | error
deriving DecidableEq, Repr

def Severity.name : Severity → String
  | info => "info"
  | warning => "warning"
  | error => "error"

/-- What a finding is about. -/
inductive FindingKind where
  /-- A section or an option lacks what it needs, or has it in a wrong form. -/
  | structuralViolation
  /-- Nobody supplied a default that was left open. -/
  | defaultIncomplete
  /-- An earlier section keeps one out. -/
  | mergeConflict
  /-- An option has the id of another one. -/
  | duplicateOption
  /-- A rule names a transform that does not exist. -/
  | unknownTransform
  /-- A transform refuses a value. -/
  | transformFailed
deriving DecidableEq, Repr

namespace FindingKind

def name : FindingKind → String
  | structuralViolation => "structural_violation"
  | defaultIncomplete => "default_incomplete"
  | mergeConflict => "merge_conflict"
  | duplicateOption => "duplicate_option"
  | unknownTransform => "unknown_transform"
  | transformFailed => "transform_failed"

def severity : FindingKind → Severity
  | structuralViolation | defaultIncomplete => .error
  | duplicateOption | unknownTransform | transformFailed => .warning
  | mergeConflict => .info

end FindingKind

/-- A finding about a section or an option. -/
structure Finding where
  kind : FindingKind
  /-- The contributor who is to blame, if it is known. -/
  contributor : Option String
  /-- The id of the section or option. -/
  target : String
  message : String
deriving DecidableEq, Repr

namespace Finding

def severity (f : Finding) : Severity := f.kind.severity

/-- A finding on one line. -/
def line (f : Finding) : String :=
  let blamed :=
    match f.contributor with
    | some id => " (" ++ id ++ ")"
    | none => ""
  "[" ++ f.severity.name ++ "] " ++ f.target ++ blamed ++ ": " ++ f.message

/-- The record of a finding. -/
def toRecord (f : Finding) : Document :=
  Record.fields
    [("severity", .string f.severity.name),
      ("kind", .string f.kind.name),
      ("contributor_id", Record.text? f.contributor),
      ("target", .string f.target),
      ("message", .string f.message)]

end Finding

end ThemeOptions
