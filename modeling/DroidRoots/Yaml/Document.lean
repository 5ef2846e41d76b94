import DroidRoots.Value.Document
import DroidRoots.Yaml.Content
import DroidRoots.Yaml.Node

/-! YAML texts as documents. A text holds one document or none. A collection from which a
path leads to one inside itself becomes a knot; every other one stands where it is used. -/

namespace DroidRoots.Yaml

inductive Standing
  | opened
  | knot
  | whole (v : Value)

structure Looking where
  contents : Array (Option Content)
  standings : Array (Option Standing)
  knots : Knots := []

abbrev Looker := StateM Looking

namespace Looker

def stand (place : Nat) (standing : Standing) : Looker Unit :=
  modify fun l => { l with standings := l.standings.setIfInBounds place (some standing) }

def assembled {m : Type → Type} [Monad m] (value : Part → m Value) : Content → m Value
  | .list parts => return .list (← parts.mapM value)
  | .object entries => return .object (← entries.mapM fun e => return (e.1.scalar, ← value e.2))
  | .set keys => return .set (keys.map (·.scalar))
  | .pairs entries =>
    return .list (← entries.mapM fun e => return .pair (← value e.1) (← value e.2))

/-- The value of a part, and whether no path from it leads back. The number bounds how many
collections are open. -/
def value : Nat → Part → StateT Bool Looker Value
  | _, .scalar s _ => return .scalar s
  | 0, .collection place => return .knot place
  | fuel + 1, .collection place => do
    let l ← getThe Looking
    match l.standings.getD place none, l.contents.getD place none with
    | some (.whole v), _ => return v
    | some _, _ => do
      set false
      return .knot place
    | none, none => return .null
    | none, some content => do
      let outer ← getThe Bool
      (stand place .opened : Looker Unit)
      set true
      let v ← assembled (value fuel) content
      if ← getThe Bool then
        (stand place (.whole v) : Looker Unit)
        set outer
        return v
      else
        (stand place .knot : Looker Unit)
        modifyThe Looking fun l => { l with knots := (place, v) :: l.knots }
        return .knot place

end Looker

def Content.document (root : Part) (contents : Array (Option Content)) : Document :=
  let start : Looking :=
    { contents, standings := Array.replicate contents.size none }
  let ((root, _), looking) := ((Looker.value (contents.size + 1) root).run true).run start
  { root, knots := looking.knots }

def read (source : Source) : Except Fault Document := do
  match ← Node.ofSource source with
  | (_, none) => return .ofValue .null
  | (graph, some root) =>
    let (root, contents) ← Content.ofGraph graph root
    return Content.document root contents

end DroidRoots.Yaml
