import ThemeOptions.Finding

/-!
# The structural check

Looks at one contribution by itself: every section needs a title, and every option needs what its
kind asks for and rules that can be written into a style sheet.
-/

namespace ThemeOptions

/-- What is wrong with one rule. -/
inductive RuleProblem where
  | selector (problem : Css.SelectorProblem)
  /-- The property is no property name. -/
  | property
  /-- There is neither a property nor a transform that supplies one. -/
  | noProperty
deriving DecidableEq, Repr

/-- What is wrong with an option. -/
inductive EntryProblem where
  | noKind
  | noFontFields
  | noFontSelector
  | noBounds
  | bounds (b : Bounds) (problem : BoundsProblem)
  | noChoices (kind : Kind)
  | rule (index : Nat) (r : Rule) (problem : RuleProblem)

namespace Entry

/-- What is wrong with a rule of an option: its selector first, then its property.  The property of
a font rule may be blank. -/
def ruleProblems (e : Entry) (r : Rule) : List RuleProblem :=
  ((Css.selectorProblem? r.selector).map RuleProblem.selector).toList ++
    (if Text.blank r.property then
      if r.transform?.isSome || e.isFont then [] else [.noProperty]
    else if Css.isProperty r.property then [] else [.property])

/-- What an option lacks for its kind. -/
def kindProblems (e : Entry) : List EntryProblem :=
  match e.kind with
  | none => [.noKind]
  | some .font =>
    (if e.fontFields.isEmpty then [.noFontFields] else []) ++
      (if e.fontSelector?.isNone then [.noFontSelector] else [])
  | some .range =>
    match e.bounds with
    | none => [.noBounds]
    | some b => (b.problem?.map (EntryProblem.bounds b)).toList
  | some kind => if kind.requiresChoices && e.choices.isEmpty then [.noChoices kind] else []

/-- Everything that is wrong with an option.  The rules of fixed markup do not matter. -/
def problems (e : Entry) : List EntryProblem :=
  e.kindProblems ++
    (if e.isStatic then []
    else e.rules.zipIdx.flatMap fun (r, index) =>
      (e.ruleProblems r).map (EntryProblem.rule index r))

end Entry

/-- The message about a problem of this option. -/
def EntryProblem.message (e : Entry) : EntryProblem → String
  | noKind => "option '" ++ e.id ++ "' has no type"
  | noFontFields => "font option '" ++ e.id ++ "' has no sub-fields"
  | noFontSelector => "font option '" ++ e.id ++ "' has no selector"
  | noBounds => "range option '" ++ e.id ++ "' has no input constraints"
  | bounds b problem => "range option '" ++ e.id ++ "': " ++ b.message problem
  | noChoices kind => kind.name ++ " option '" ++ e.id ++ "' has no choices"
  | rule index r problem =>
    let place := "css rule " ++ toString index ++ " of '" ++ e.id ++ "'"
    match problem with
    | .selector p => place ++ ": " ++ p.message r.selector
    | .property => place ++ ": " ++ Css.propertyMessage r.property
    | .noProperty => place ++ " has neither a property nor a callback"

/-- Whether a section has a title that is not blank. -/
def Section.isTitled (s : Section) : Bool :=
  s.title.any fun t => !Text.blank t

/-- What the structural check finds in a section. -/
def Section.structureFindings (contributor : Option String) (s : Section) : List Finding :=
  (if s.isTitled then []
    else [⟨.structuralViolation, contributor, s.id, "section '" ++ s.id ++ "' has no title"⟩]) ++
  s.options.toList.flatMap fun e =>
    e.problems.map fun p => ⟨.structuralViolation, contributor, e.id, p.message e⟩

/-- What the structural check finds in a contribution. -/
def Contribution.structureFindings (contributor : Option String) (c : Contribution) :
    List Finding :=
  c.sections.toList.flatMap (Section.structureFindings contributor)

end ThemeOptions
