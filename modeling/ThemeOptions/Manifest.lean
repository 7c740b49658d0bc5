import ThemeOptions.Contribution.Loading
import ThemeOptions.Pipeline

/-!
# Manifests

A manifest lists what one build is made of: contributors with a contribution file each, filters that
set defaults in what a contributor brings, and the application's own defaults.  Paths in it start
from its directory.
-/

namespace ThemeOptions

/-- A contributor whose contribution stands in a file. -/
structure ContributorSpec where
  id : String
  priority : Int32
  provenance : Provenance
  file : String

/-- A filter that sets defaults in the contribution of its target. -/
structure FilterSpec where
  id : String
  target : String
  priority : Int32
  /-- Option ids with their defaults. -/
  defaults : List (Document × Document)

/-- What a build is made of. -/
structure Manifest where
  diagnostics : Bool := false
  house : Document := .null
  contributors : List ContributorSpec := []
  filters : List FilterSpec := []
  /-- Option ids with the application's defaults. -/
  defaults : List (Document × Document) := []

/-- Why a mapping from option ids to values cannot be read. -/
inductive ValuesError where
  | key (found : Document)
  | value (id : String) (problem : Value.ReadError)

def ValuesError.message : ValuesError → String
  | key d => "option ids must be strings, got " ++ d.describe
  | value id problem => "option '" ++ id ++ "': " ++ problem.message

/-- Reads a mapping from option ids to values, in its order. -/
def readValues (pairs : List (Document × Document)) :
    Except ValuesError (List (String × Value)) :=
  pairs.mapM fun (key, d) =>
    match key.string? with
    | none => .error (.key key)
    | some id =>
      match Value.ofDocument d with
      | .ok v => .ok (id, v)
      | .error problem => .error (.value id problem)

namespace Manifest

open Yaml (Reader)

/-- The priority of contributors and filters that name none. -/
def standardPriority : Int32 := 10

/-- How many collections may be nested inside a part of a manifest at this depth. -/
def depthBelow (n : Nat) : Nat := Reader.maxDepth - n

/-- The provenance of a contributor: its name, or its name as a tag with nothing under it. -/
def readProvenance : Reader Provenance := fun n => do
  let choose (name : String) : Yaml.Reading Provenance :=
    match Provenance.parse? name with
    | some p => return p
    | none => throw .expectedChoice
  match ← Reader.follow n with
  | .scalar p style text =>
    match Yaml.localName? p.tag with
    | none => choose text
    | some name =>
      if style == .plain && (text.isEmpty || Yaml.isNull text) then choose name
      else throw .expectedChoice
  | _ => throw .expectedChoice

/-- One contributor of a manifest. -/
def readContributor : Reader ContributorSpec := fun n => do
  let known ← Reader.record true ["id", "priority", "source", "file"] n
  return {
    id := ← Reader.required known "id" Reader.text
    priority := ← Reader.field known "priority" (pure standardPriority) Reader.int32
    provenance := ← Reader.field known "source" (pure .builtIn) readProvenance
    file := ← Reader.required known "file" Reader.text }

/-- One filter of a manifest. -/
def readFilter : Reader FilterSpec := fun n => do
  let known ← Reader.record true ["id", "target", "priority", "defaults"] n
  return {
    id := ← Reader.required known "id" Reader.text
    target := ← Reader.required known "target" Reader.text
    priority := ← Reader.field known "priority" (pure standardPriority) Reader.int32
    defaults := ← Reader.field known "defaults" (pure []) (Reader.documentPairs (depthBelow 4)) }

/-- A manifest. -/
def reader : Reader Manifest := fun n => do
  let known ← Reader.record true ["diagnostics", "house", "contributors", "filters", "defaults"] n
  return {
    diagnostics := ← Reader.field known "diagnostics" (pure false) Reader.bool
    house := ← Reader.field known "house" (pure .null) (Reader.plainDocument (depthBelow 1))
    contributors := ← Reader.field known "contributors" (pure []) fun n => do
      (← Reader.items n).mapM readContributor
    filters := ← Reader.field known "filters" (pure []) fun n => do
      (← Reader.items n).mapM readFilter
    defaults := ← Reader.field known "defaults" (pure []) (Reader.documentPairs (depthBelow 2)) }

/-- Reads the text of a manifest. -/
def parse (text : String) : Except Yaml.Error Manifest := Yaml.readText reader text

end Manifest

/-- Why a manifest gives no pipeline. -/
inductive ManifestError where
  | filterDefaults (id : String) (problem : ValuesError)
  | applicationDefaults (problem : ValuesError)

namespace Manifest

/-- The contributor for a file, which is read when the contributor runs. -/
def contributor (files : Files) (directory : String) (spec : ContributorSpec) : Contributor where
  id := spec.id
  priority := spec.priority
  provenance := spec.provenance
  run _ := (Contribution.load files (Path.join directory spec.file)).mapError
    ContributionError.toFailure

/-- Sets several defaults, one after the other. -/
def setDefaults (defaults : List (String × Value)) (c : Contribution) : Contribution :=
  defaults.foldl (fun c (id, v) => c.setDefault id (some v)) c

/-- The filter that sets defaults. -/
def filter (spec : FilterSpec) : Except ManifestError Filter :=
  match readValues spec.defaults with
  | .error problem => .error (.filterDefaults spec.id problem)
  | .ok defaults => .ok
    { id := spec.id
      target := spec.target
      priority := spec.priority
      run := fun _ c => .ok (setDefaults defaults c) }

/-- The pipeline of a manifest in a directory. -/
def pipeline (m : Manifest) (files : Files) (directory : String) :
    Except ManifestError Pipeline := do
  let filters ← m.filters.mapM filter
  let defaults ← (readValues m.defaults).mapError .applicationDefaults
  return { Pipeline.ofLists (m.contributors.map (contributor files directory)) filters with
    house := m.house, defaults, options := { diagnostics := m.diagnostics } }

end Manifest

end ThemeOptions
