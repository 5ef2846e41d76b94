import DroidRoots.EntryPoint

/-! Discovery finds the entry points among the methods of a call graph, the roles of the
classes that declare the methods, and the methods that calls lead to from the entry
points. -/

namespace DroidRoots

inductive Source
  | callGraph
  | given
  deriving DecidableEq, Repr

def Source.title : Source → Text
  | .callGraph => "callgraph"
  | .given => "override"

structure Report where
  entryPoints : NameSet
  components : List (Text × Role)
  reachable : NameSet
  nodeCount : Nat
  edgeCount : Nat
  unparsed : Nat
  source : Source
  deriving DecidableEq

namespace Discovery

/-- The class that a node is declared in; none if only an unreadable signature tells. -/
def declaringOf (node : CallGraph.Node) : Except Fault (Option Text) :=
  match node.declaring with
  | some name => .ok (some name)
  | none => do
    let signature ← node.method.required
    match Method.parse signature with
    | .ok m => return some m.declaring
    | .error _ => return none

def declaringClasses (nodes : List (Option CallGraph.Node)) : Except Fault (List Text) :=
  ((nodes.filterMap id).mapM declaringOf).map (·.filterMap id)

/-- The classes of entry points, read again from their canonical signatures. -/
def entryClasses (entryPoints : NameSet) : Except Fault (List Text) :=
  entryPoints.toList.mapM fun signature => (Method.parse signature).map (·.declaring)

def canonical? (mention : Mention) : Except Fault (Option Text) := do
  match ← mention.signature? with
  | none => return none
  | some signature =>
    match Method.parse signature with
    | .ok m => return some m.signature
    | .error _ => return none

def arc? (edge : CallGraph.Edge) : Except Fault (Option (Text × Text)) := do
  let caller ← canonical? edge.caller
  let callee ← canonical? edge.callee
  return match caller, callee with
    | some a, some b => some (a, b)
    | _, _ => none

def graphOf (edges : List (Option CallGraph.Edge)) : Except Fault Digraph :=
  ((edges.filterMap id).mapM arc?).map fun arcs => ⟨arcs.filterMap id⟩

def componentsOf (roles : List (Text × Role)) : List (Text × Role) :=
  roles.filter fun entry => entry.2 ≠ .plain

def examine (c : Classifier) (k : Catalog) (g : CallGraph) (source : Source)
    (candidates : List Mention) : Analysis Report := do
  let selection ← EntryPoint.selectFrom c k candidates
  let declared ← Analysis.ofExcept (declaringClasses g.nodes)
  let entered ← Analysis.ofExcept (entryClasses selection.chosen)
  let roles ← c.classify (NameSet.ofList (declared ++ entered)).toList
  let graph ← Analysis.ofExcept (graphOf g.edges)
  return {
    entryPoints := selection.chosen
    components := componentsOf roles
    reachable := graph.reachable selection.chosen.toList
    nodeCount := g.nodes.length
    edgeCount := g.edges.length
    unparsed := selection.unparsed
    source }

/-- The candidates are the given ones, or else the methods of the call graph. -/
def candidatesOf (g : CallGraph) : Option Value → Except Fault (Source × List Mention)
  | none => .ok (.callGraph, g.candidates)
  | some value =>
    match Mention.ofElements? value with
    | some mentions => .ok (.given, mentions)
    | none => .error .expectedCollection

def run (c : Classifier) (k : Catalog) (callGraph : Value) (given : Option Value) :
    Analysis Report := do
  let g ← Analysis.ofExcept (CallGraph.ofValue callGraph)
  let counts : List (Text × Value) :=
    [("node_count", .nat g.nodes.length), ("edge_count", .nat g.edges.length)]
  let report ← Analysis.inSpan "phase0.entrypoints" counts do
    let (source, candidates) ← Analysis.ofExcept (candidatesOf g given)
    examine c k g source candidates
  if report.unparsed ≠ 0 then Analysis.note (.signaturesSkipped report.unparsed)
  return report

end Discovery

namespace Report

def summary (r : Report) : Value :=
  .record
    [("node_count", .nat r.nodeCount), ("edge_count", .nat r.edgeCount),
      ("entrypoint_count", .nat r.entryPoints.size), ("reachable_count", .nat r.reachable.size),
      ("unparsed_methods", .nat r.unparsed), ("entrypoints_source", .text r.source.title)]

def toFields (r : Report) : List (Text × Value) :=
  [("entrypoints", .texts r.entryPoints.toList),
    ("components", .record (r.components.map fun entry => (entry.1, .text entry.2.title))),
    ("reachable_methods", .texts r.reachable.toList),
    ("callgraph_summary", r.summary)]

def toValue (r : Report) : Value := .record r.toFields

end Report

end DroidRoots
