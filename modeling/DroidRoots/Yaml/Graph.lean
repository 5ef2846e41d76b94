import DroidRoots.Yaml.Kind

/-! The nodes of a YAML document, each known by its place. A collection refers to its parts
by their places, so that nodes can be shared and a collection can be inside itself. -/

namespace DroidRoots.Yaml

inductive Shape
  | scalar (text : Text)
  | list (items : List Nat)
  | map (entries : List (Nat × Nat))
  deriving DecidableEq, Repr

structure Node where
  kind : Kind
  shape : Shape
  deriving DecidableEq, Repr

structure Graph where
  nodes : Array Node := #[]

namespace Graph

def size (g : Graph) : Nat := g.nodes.size

/-- A place that is not taken counts as a node of which nothing can be made. -/
def node (g : Graph) (place : Nat) : Node := g.nodes.getD place ⟨.foreign, .list []⟩

def push (g : Graph) (node : Node) : Graph := ⟨g.nodes.push node⟩

def set (g : Graph) (place : Nat) (node : Node) : Graph :=
  ⟨g.nodes.setIfInBounds place node⟩

def setShape (g : Graph) (place : Nat) (shape : Shape) : Graph :=
  g.set place { g.node place with shape }

def setKind (g : Graph) (place : Nat) (kind : Kind) : Graph :=
  g.set place { g.node place with kind }

def kind (g : Graph) (place : Nat) : Kind := (g.node place).kind

def entries (g : Graph) (place : Nat) : List (Nat × Nat) :=
  match (g.node place).shape with
  | .map entries => entries
  | _ => []

def isMap (g : Graph) (place : Nat) : Bool :=
  match (g.node place).shape with
  | .map _ => true
  | _ => false

end Graph

end DroidRoots.Yaml
