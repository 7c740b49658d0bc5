import ThemeOptions.Pipeline

/-!
# Builders

A `Builder` is told of contributors, filters and settings in any order.  It numbers contributors and
filters as they come.  The pipeline that is built has each of them sorted by priority, and by number
where priorities are equal; of contributors with one id it has the first.
-/

namespace ThemeOptions

/-- A contributor that brings the same contribution whatever it sees. -/
def Contributor.always (id : String) (priority : Int32) (provenance : Provenance)
    (c : Contribution) : Contributor :=
  { id, priority, provenance, run := fun _ => .ok c }

/-- Something that a builder is told. -/
inductive BuilderCall where
  | contributor (c : Contributor)
  | filter (f : Filter)
  | house (options : Document)
  /-- A default of the application. -/
  | supply (option : String) (v : Value)
  | options (o : BuildOptions)
  /-- Whether the checks run. -/
  | diagnostics (on : Bool)
  /-- An observer wants to be told of conflicts. -/
  | watch

/-- What a builder has been told so far. -/
structure Builder where
  /-- The contributors with their numbers. -/
  contributors : List (Contributor × Nat) := []
  /-- The filters with theirs. -/
  filters : List (Filter × Nat) := []
  house : Document := .null
  defaults : List (String × Value) := []
  options : BuildOptions := {}
  watched : Bool := false
  /-- The last number that was given to a contributor or a filter. -/
  last : Nat := 0

namespace Builder

def perform (b : Builder) : BuilderCall → Builder
  | .contributor c =>
    { b with contributors := b.contributors ++ [(c, b.last + 1)], last := b.last + 1 }
  | .filter f => { b with filters := b.filters ++ [(f, b.last + 1)], last := b.last + 1 }
  | .house options => { b with house := options }
  | .supply option v => { b with defaults := b.defaults ++ [(option, v)] }
  | .options o => { b with options := o }
  | .diagnostics on => { b with options := { b.options with diagnostics := on } }
  | .watch => { b with watched := true }

/-- A builder that has been told all this, one after the other. -/
def ofCalls (calls : List BuilderCall) : Builder := calls.foldl perform {}

/-- Lower priorities come first, and lower numbers among equal priorities. -/
def inTurn {α : Type} (priority : α → Int32) (a b : α × Nat) : Bool :=
  priority a.1 < priority b.1 || (priority a.1 == priority b.1 && a.2 ≤ b.2)

/-- The pipeline that is built. -/
def pipeline (b : Builder) : Pipeline where
  contributors :=
    ((Keyed.ofList b.contributors : Keyed (Contributor × Nat) (·.1.id)).toList.mergeSort
      (inTurn Contributor.priority)).map Prod.fst
  filters := (b.filters.mergeSort (inTurn Filter.priority)).map Prod.fst
  house := b.house
  defaults := b.defaults
  options := b.options
  watched := b.watched

end Builder

end ThemeOptions
