import DroidRoots.Fault
import DroidRoots.Hierarchy.Closures
import DroidRoots.Notice
import DroidRoots.Span

/-! The state of an analysis and computations on it. A computation that fails leaves the
state as far as it got: what was computed stays known, what was noted stays noted. -/

namespace DroidRoots

structure State where
  closures : Closures := []
  roles : List (Text × Role) := []
  queries : Nat := 0
  notices : List Notice := []
  context : Option RunContext := none
  current : Option Text := none
  spans : List Span := []

abbrev Analysis := ExceptT Fault (StateM State)

namespace Analysis

def note (notice : Notice) : StateM State Unit :=
  modify fun s => { s with notices := s.notices ++ [notice] }

def ofExcept {α : Type} : Except Fault α → Analysis α
  | .ok a => pure a
  | .error fault => throw fault

/-- Runs a block inside a span, which is recorded however the block ends. -/
def inSpan {α : Type} (name : Text) (attributes : List (Text × Value)) (block : Analysis α) :
    Analysis α :=
  ExceptT.mk fun s =>
    let (outcome, after) := block.run { s with current := some name }
    let span : Span :=
      { name, parent := s.current, attributes := Span.attributesOf s.context attributes }
    (outcome, { after with current := s.current, spans := after.spans ++ [span] })

end Analysis

end DroidRoots
