import DroidRoots.Discovery
import DroidRoots.Hierarchy.Document
import DroidRoots.Settings

/-! One run: a hierarchy, a catalog and a call graph are read, and a report is made of
them. A hierarchy that cannot be read is done without. -/

namespace DroidRoots

/-- The faults that no hierarchy makes up for. -/
def Hierarchy.isFatal : Fault → Bool
  | .expectedCollection | .tooDeep => true
  | _ => false

/-- The hierarchy of a file; none, with a notice, if the file is missing or malformed. -/
def Hierarchy.load (files : FileTree) (name : Text) : Analysis (Option Hierarchy) := do
  let path := Path.ofText name
  match (files.readJson path).bind Hierarchy.ofValue with
  | .ok h => return some h
  | .error fault =>
    if isFatal fault then throw fault
    Analysis.note (.hierarchyUnavailable path.text)
    return none

/-- The catalog of a file, YAML or JSON by its name. A YAML file that says nothing is an
empty mapping. -/
def Catalog.load (files : FileTree) (name : Text) : Except Fault Catalog := do
  let path := Path.ofText name
  let document ←
    if path.isYaml then
      let document ← files.readYaml path
      pure (if document.isPresent then document else .ofValue (.object []))
    else (files.readJson path).map .ofValue
  Catalog.ofDocument path.text document

def Catalog.ofSettings (files : FileTree) (settings : Document) : Except Fault Catalog := do
  let path ← Settings.catalogPath settings
  if !path.isPresent then return .builtin
  else match path with
    | .text name => Catalog.load files name
    | _ => throw .expectedPath

structure RunReport where
  report : Report
  available : Bool
  classCount : Nat
  catalogVersion : Text

namespace Run

/-- Without a hierarchy nothing but the root type resolves, and every class is plain. -/
def classifier (hierarchy : Option Hierarchy) : StateM State Classifier := do
  let resolve := (hierarchy.getD .empty).resolve
  for notice in Classifier.omissions resolve do Analysis.note notice
  return Classifier.ofResolver (hierarchy.map .hierarchy) resolve

def report (files : FileTree) (run : Text) (settings : Document)
    (hierarchyFile graphFile : Text) : Analysis RunReport := do
  let graphPath := Path.ofText graphFile
  modify fun s => { s with context := some { analysis := graphPath.stem, run } }
  let attributes : List (Text × Value) :=
    [("class_hierarchy", .text hierarchyFile), ("callgraph", .text graphFile)]
  Analysis.inSpan "lifecycle.run" attributes do
    let hierarchy ← Hierarchy.load files hierarchyFile
    let catalog ← Analysis.ofExcept (Catalog.ofSettings files settings)
    let classifier ← classifier hierarchy
    let callGraph ← Analysis.ofExcept (files.readJson graphPath)
    let report ← Discovery.run classifier catalog callGraph none
    return {
      report
      available := hierarchy.isSome
      classCount := (hierarchy.map Hierarchy.size).getD 0
      catalogVersion := catalog.version }

end Run

def RunReport.toValue (r : RunReport) : Value :=
  let hierarchy : Value :=
    .record
      [("available", .bool r.available), ("class_count", .nat r.classCount),
        ("catalog_version", .text r.catalogVersion)]
  .record (r.report.toFields ++ [(Text.of "hierarchy", hierarchy)])

end DroidRoots
