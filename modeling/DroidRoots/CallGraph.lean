import DroidRoots.Fault
import DroidRoots.Value.Show

/-! Call graphs from documents. Entries of the node and edge lists that are no objects
count but say nothing. What stands where a signature is expected need not be a text. -/

namespace DroidRoots

inductive Mention
  | text (signature : Text)
  | vacant
  | foreign
  deriving DecidableEq, Repr

namespace Mention

def ofValue : Value → Mention
  | .text s => .text s
  | other => if other.isPresent then .foreign else .vacant

/-- A field that is absent counts as the empty text. -/
def ofField (name : Text) (fields : List (Scalar × Value)) : Mention :=
  ofValue (Value.fieldD name fields (.text []))

def ofElements? (value : Value) : Option (List Mention) := value.elements?.map (·.map ofValue)

def signature? : Mention → Except Fault (Option Text)
  | .text s => .ok (if s = [] then none else some s)
  | .vacant => .ok none
  | .foreign => .error .expectedText

def required : Mention → Except Fault Text
  | .text s => .ok s
  | .vacant | .foreign => .error .expectedText

end Mention

structure CallGraph.Node where
  method : Mention
  declaring : Option Text
  deriving DecidableEq, Repr

structure CallGraph.Edge where
  caller : Mention
  callee : Mention
  deriving DecidableEq, Repr

/-- Nodes and edges with a place for each entry of their lists. -/
structure CallGraph where
  nodes : List (Option CallGraph.Node)
  edges : List (Option CallGraph.Edge)
  deriving DecidableEq, Repr

namespace CallGraph

def Node.ofValue : Value → Option Node
  | .object fields =>
    let declaring := Value.fieldD "class" fields .null
    some
      { method := Mention.ofField "method" fields
        declaring := if declaring.isPresent then some declaring.shown else none }
  | _ => none

def Edge.ofValue : Value → Option Edge
  | .object fields =>
    some { caller := Mention.ofField "caller" fields, callee := Mention.ofField "callee" fields }
  | _ => none

def elementsUnder (name : Text) (fields : List (Scalar × Value)) :
    Except Fault (List Value) :=
  let value := Value.fieldD name fields (.list [])
  if !value.isPresent then .ok []
  else match value.elements? with
    | some elements => .ok elements
    | none => .error .expectedCollection

def ofValue : Value → Except Fault CallGraph
  | .object fields => do
    let nodes ← elementsUnder "nodes" fields
    let edges ← elementsUnder "edges" fields
    return { nodes := nodes.map Node.ofValue, edges := edges.map Edge.ofValue }
  | _ => .error .expectedObject

def candidates (g : CallGraph) : List Mention :=
  g.nodes.filterMap fun node => node.map (·.method)

end CallGraph

end DroidRoots
