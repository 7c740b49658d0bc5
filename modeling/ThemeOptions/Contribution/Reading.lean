import ThemeOptions.Document.Scalar
import ThemeOptions.Section
import ThemeOptions.Value.Document

/-!
# Reading contributions from documents

A contribution document maps section ids to sections, and a section maps option ids to options.
Only the overall shape is strict.  Scalars are read loosely, several keys have an alias, keys that
are not known are passed over, and what is missing is left out.  The first offence in document order
is reported; inside an option the default comes before the CSS, and the CSS before the font fields.
-/

namespace ThemeOptions

/-- What is wrong with the document of an option. -/
inductive OptionOffence where
  | notMapping
  | badDefault (problem : Value.ReadError)
  | cssNotList
  | ruleNotMapping (index : Nat)
  | fieldsNotMapping

/-- What is wrong with a contribution document. -/
inductive Offence where
  | rootNotMapping
  | sectionKey (key : Document)
  | sectionNotMapping (id : String)
  | optionsNotMapping (id : String)
  | optionKey (sectionId : String)
  | option (sectionId optionId : String) (offence : OptionOffence)

open Document (lookup lookupAny textUnder numberUnder unitUnder)

/-- The limits of a slider, which need both ends; the step is one unless it is given. -/
def Bounds.ofDocument? (d : Document) : Option Bounds := do
  let pairs ← d.pairs?
  let min ← numberUnder pairs "min"
  let max ← numberUnder pairs "max"
  return ⟨min, max, (numberUnder pairs "step").getD 1⟩

/-- Choices as a mapping from values to labels, or as a sequence of values that are their own
labels.  A label that is no scalar is replaced by the value. -/
def choicesOfDocument : Document → List (String × String)
  | .mapping pairs => pairs.filterMap fun (key, label) =>
      key.keyText?.map fun value => (value, label.text?.getD value)
  | .sequence items => (items.filterMap Document.text?).map fun value => (value, value)
  | _ => []

/-- A rule; all of its parts may be missing. -/
def Rule.ofPairs (pairs : List (Document × Document)) : Rule where
  property := (textUnder pairs ["property"]).getD ""
  selector := (textUnder pairs ["selector"]).getD ""
  unit := unitUnder pairs
  callback := textUnder pairs ["callback_filter", "callback"]

/-- The rules of an option.  A single rule may be written without the list. -/
def rulesOfDocument (d : Document) : Except OptionOffence (List Rule) :=
  let items : Except OptionOffence (List Document) :=
    match d with
    | .null => .ok []
    | .sequence items => .ok items
    | .mapping pairs => .ok [.mapping pairs]
    | _ => .error .cssNotList
  items.bind fun items => items.zipIdx.mapM fun (item, index) =>
    match item.pairs? with
    | some pairs => .ok (Rule.ofPairs pairs)
    | none => .error (.ruleNotMapping index)

/-- How a font field is offered: false switches it off, a sequence gives the limits, the step and
the unit in this order, and a mapping names them.  Everything else just switches it on. -/
def FontFieldSpec.ofDocument : Document → FontFieldSpec
  | .bool false => { enabled := false }
  | .sequence items =>
    { enabled := true
      min := items[0]?.bind Document.number?
      max := items[1]?.bind Document.number?
      step := items[2]?.bind Document.number?
      unit := (items[3]?.bind Document.text?).filter (· != "") }
  | .mapping pairs =>
    { enabled := ((lookup pairs "enabled").map Document.flag).getD true
      min := numberUnder pairs "min"
      max := numberUnder pairs "max"
      step := numberUnder pairs "step"
      unit := unitUnder pairs }
  | _ => {}

/-- The font fields of an option.  A key that names no field is passed over, and of two spellings of
a field the later one counts. -/
def fontFieldsOfPairs (pairs : List (Document × Document)) : FontTable FontFieldSpec :=
  pairs.foldl (fun table (key, spec) =>
    match key.keyText?.bind FontField.parse? with
    | some field => table.set field (FontFieldSpec.ofDocument spec)
    | none => table) FontTable.empty

/-- What a key of an option gives if it is there. -/
def readUnder {α : Type} (pairs : List (Document × Document)) (names : List String) (missing : α)
    (read : Document → Except OptionOffence α) : Except OptionOffence α :=
  match lookupAny pairs names with
  | some d => read d
  | none => .ok missing

/-- The default that a document declares. -/
def readDefault (d : Document) : Except OptionOffence (Option Value) :=
  match Value.ofDocument d with
  | .ok v => .ok (some v)
  | .error problem => .error (.badDefault problem)

/-- The font fields that a document declares. -/
def readFontFields (d : Document) : Except OptionOffence (FontTable FontFieldSpec) :=
  match d.pairs? with
  | some pairs => .ok (fontFieldsOfPairs pairs)
  | none => .error .fieldsNotMapping

/-- An option. -/
def Entry.ofPairs (id : String) (pairs : List (Document × Document)) :
    Except OptionOffence Entry := do
  let default ← readUnder pairs ["default"] none readDefault
  let rules ← readUnder pairs ["css"] [] rulesOfDocument
  let fontFields ← readUnder pairs ["fields", "sub_fields"] FontTable.empty readFontFields
  return {
    id
    kind := (textUnder pairs ["type", "kind"]).map Kind.parse
    label := (textUnder pairs ["label"]).getD ""
    description := (textUnder pairs ["desc", "description"]).getD ""
    default
    choices := Keyed.ofList (((lookup pairs "choices").map choicesOfDocument).getD [])
    bounds := (lookupAny pairs ["input_attrs", "input_constraints"]).bind Bounds.ofDocument?
    rules
    live := ((lookup pairs "live").map Document.flag).getD false
    selector := textUnder pairs ["selector"]
    fieldSpecs := if fontFields.isEmpty then none else some fontFields
    recommended :=
      match lookup pairs "recommended" with
      | some (.sequence items) => items.filterMap Document.text?
      | _ => []
    html := textUnder pairs ["html"]
    activeWhen := textUnder pairs ["active_callback", "active_when"] }

/-- One option of a section. -/
def Entry.ofPair (sectionId : String) (pair : Document × Document) : Except Offence Entry :=
  match pair.1.keyText? with
  | none => .error (.optionKey sectionId)
  | some id =>
    match pair.2.pairs? with
    | none => .error (.option sectionId id .notMapping)
    | some pairs => (Entry.ofPairs id pairs).mapError (.option sectionId id)

/-- The priority of a section: the whole number nearest to what is given, and ten if that is no
number. -/
def priorityOfDocument : Document → Int32
  | .null => 10
  | d => (d.number?.map Decimal.toInt32).getD 10

/-- The options of a section, of which those with equal ids may be several. -/
def optionsOfDocument (sectionId : String) : Document → Except Offence (List Entry)
  | .null => .ok []
  | .mapping pairs => pairs.mapM (Entry.ofPair sectionId)
  | _ => .error (.optionsNotMapping sectionId)

/-- A section.  Of options with equal ids the first is kept. -/
def Section.ofPairs (id : String) (pairs : List (Document × Document)) :
    Except Offence Section := do
  let options ← optionsOfDocument id ((lookup pairs "options").getD .null)
  return {
    id
    title := textUnder pairs ["title"]
    description := textUnder pairs ["description", "desc"]
    panel := textUnder pairs ["panel"]
    priority := priorityOfDocument ((lookup pairs "priority").getD .null)
    options := Keyed.ofList options }

/-- One section of a contribution. -/
def Section.ofPair (pair : Document × Document) : Except Offence Section :=
  match pair.1.keyText? with
  | none => .error (.sectionKey pair.1)
  | some id =>
    match pair.2.pairs? with
    | none => .error (.sectionNotMapping id)
    | some pairs => Section.ofPairs id pairs

/-- A contribution.  Of sections with equal ids the first is kept, but all are read. -/
def Contribution.ofDocument : Document → Except Offence Contribution
  | .null => .ok {}
  | .mapping pairs => (pairs.mapM Section.ofPair).map fun sections => ⟨Keyed.ofList sections⟩
  | _ => .error .rootNotMapping

end ThemeOptions
