import DroidRoots.Yaml.Graph
import DroidRoots.Yaml.Meaning

/-! What the nodes of a YAML document are made into. A scalar is made when it is met. A
collection is only noted then, and filled after all that were noted before it, so a fault
in an outer collection is found before those in the collections inside it. -/

namespace DroidRoots.Yaml

/-- A scalar, or a collection known by its node. Two numbers that are none are the same only
if they come from the same node, or both from the common name of what is no number. -/
inductive Part
  | scalar (s : Scalar) (owner : Option Nat)
  | collection (place : Nat)
  deriving DecidableEq, Repr

structure Key where
  scalar : Scalar
  owner : Option Nat
  deriving DecidableEq, Repr

namespace Key

def same (a b : Key) : Bool :=
  match a.scalar, b.scalar with
  | .float .nan, .float .nan => a.owner = b.owner
  | x, y => x.same y

def put (key : Key) (part : Part) : List (Key × Part) → List (Key × Part)
  | [] => [(key, part)]
  | (k, p) :: rest => if k.same key then (k, part) :: rest else (k, p) :: put key part rest

end Key

inductive Content
  | list (parts : List Part)
  | object (entries : List (Key × Part))
  | set (keys : List Key)
  | pairs (entries : List (Part × Part))
  deriving Repr

namespace Content

structure Making where
  graph : Graph
  waiting : List Nat := []
  noted : Array Bool
  made : Array (Option Content)

abbrev Maker := StateT Making (Except Fault)

def fail {α : Type} : Maker α := throw .malformedYaml

def graph : Maker Graph := return (← get).graph

def change (f : Graph → Graph) : Maker Unit := modify fun m => { m with graph := f m.graph }

/-- The text of a scalar, or of what a mapping holds under the key for its value. The number
bounds how many mappings are inside one another. -/
def scalarText : Nat → Nat → Maker Text
  | 0, _ => throw .tooDeep
  | room + 1, place => do
    let g ← graph
    match (g.node place).shape with
    | .scalar text => return text
    | .list _ => fail
    | .map entries =>
      match entries.find? fun entry => g.kind entry.1 = .value with
      | some entry => scalarText room entry.2
      | none => fail

def deepest : Nat := 980

def note (place : Nat) : Maker Unit :=
  modify fun m =>
    if m.noted.getD place true then m
    else
      { m with
        waiting := place :: m.waiting
        noted := m.noted.setIfInBounds place true }

def isCollection : Kind → Bool
  | .list | .map | .set | .pairs => true
  | _ => false

def part (place : Nat) : Maker Part := do
  let kind := (← graph).kind place
  if isCollection kind then
    note place
    return .collection place
  else if kind = .merge ∨ kind = .value ∨ kind = .foreign then fail
  else
    let text ← scalarText deepest place
    if kind = .moment ∧ (← graph).isMap place then throw .momentInMapping
    let scalar ← Meaning.ofText kind text
    return .scalar scalar (if Meaning.isNan text then none else some place)

def key (place : Nat) : Maker Key := do
  match ← part place with
  | .scalar scalar owner => return { scalar, owner }
  | .collection _ => fail

/-- A key for a value is a text where it is one of several keys. -/
def settled (place : Nat) (g : Graph) : Graph :=
  if g.kind place = .value then g.setKind place .text else g

/-- Puts the entries of mappings that are to be merged into a mapping before its own, and
makes texts of the keys for values. Each step removes a key that asks for a merge, and the
number bounds those. -/
def flatten : Nat → Nat → List (Nat × Nat) → Maker Unit
  | 0, _, _ => throw .tooDeep
  | fuel + 1, place, merged => do
    let entries := (← graph).entries place
    let g ← graph
    match entries.findIdx? fun entry => g.kind entry.1 = .merge with
    | none =>
      change fun g => entries.foldl (fun g entry => settled entry.1 g) g
      if !merged.isEmpty then change (·.setShape place (.map (merged ++ entries)))
    | some index =>
      change (·.setShape place (.map (entries.eraseIdx index)))
      let source := ((entries[index]?).map (·.2)).getD place
      let more ← match (g.node source).shape with
        | .map _ => do
          flatten fuel source []
          pure ((← graph).entries source)
        | .list items => do
          let groups ← items.mapM fun item => do
            if !(← graph).isMap item then fail
            flatten fuel item []
            return (← graph).entries item
          pure groups.reverse.flatten
        | .scalar _ => fail
      flatten fuel place (merged ++ more)

def objectEntries (place : Nat) : Maker (List (Key × Part)) := do
  if !(← graph).isMap place then fail
  flatten (2 * (← graph).size + 2) place []
  ((← graph).entries place).foldlM (fun done entry => do
    let key ← key entry.1
    let part ← part entry.2
    return Key.put key part done) []

def pair (place : Nat) : Maker (Part × Part) := do
  match ((← graph).node place).shape with
  | .map [(first, second)] =>
    let first ← part first
    return (first, ← part second)
  | _ => fail

def fill (place : Nat) : Maker Content := do
  let node := (← graph).node place
  match node.kind, node.shape with
  | .list, .list items => return .list (← items.mapM part)
  | .map, _ => return .object (← objectEntries place)
  | .set, _ => return .set ((← objectEntries place).map (·.1))
  | .pairs, .list items => return .pairs (← items.mapM pair)
  | _, _ => fail

/-- Fills all collections: those that are noted, then those that were noted meanwhile. Each
round but the last fills a collection. -/
def fillAll : Nat → Maker Unit
  | 0 => return
  | fuel + 1 => do
    let round := (← get).waiting.reverse
    if !round.isEmpty then
      modify fun m => { m with waiting := [] }
      for place in round do
        let content ← fill place
        modify fun m => { m with made := m.made.setIfInBounds place (some content) }
      fillAll fuel

def ofGraph (graph : Graph) (root : Nat) : Except Fault (Part × Array (Option Content)) := do
  let start : Making :=
    { graph
      noted := Array.replicate graph.size false
      made := Array.replicate graph.size none }
  let (root, making) ← (do
    let root ← part root
    fillAll graph.size
    return root : Maker Part).run start
  return (root, making.made)

end Content

end DroidRoots.Yaml
