import DroidRoots.Fault
import DroidRoots.Value.Show

/-! Spans: named blocks of work with attributes. A span is recorded when its block ends,
so a block inside another is recorded before it. -/

namespace DroidRoots

structure Span where
  name : Text
  parent : Option Text
  attributes : List (Text × Scalar)
  deriving DecidableEq, Repr

structure RunContext where
  analysis : Text
  run : Text
  deriving DecidableEq, Repr

namespace Span

def capacity : Nat := 128

def kept : Value → Scalar
  | .scalar (.moment m) => .text (Scalar.moment m).shown
  | .scalar (.bytes b) => .text (Scalar.bytes b).shown
  | .scalar s => s
  | other => .text other.shown

/-- An attribute has a name. One that is set again comes last; where there is no room for a
new one, the oldest goes. -/
def set (key : Text) (value : Scalar) (attributes : List (Text × Scalar)) :
    List (Text × Scalar) :=
  if key = [] then attributes
  else
    let others := attributes.filter fun entry => entry.1 ≠ key
    (if others.length < capacity then others else others.drop 1) ++ [(key, value)]

def withAttributes (attributes : List (Text × Scalar)) :
    List (Text × Value) → List (Text × Scalar)
  | [] => attributes
  | (_, .null) :: rest => withAttributes attributes rest
  | (key, value) :: rest => withAttributes (set key (kept value) attributes) rest

/-- The identities of the run, unless they are empty. -/
def identities : Option RunContext → List (Text × Scalar)
  | none => []
  | some context =>
    let named : List (Text × Text) := [("analysis_id", context.analysis), ("run_id", context.run)]
    named.filterMap fun (key, name) => if name = [] then none else some (key, .text name)

def attributesOf (context : Option RunContext) (extra : List (Text × Value)) :
    List (Text × Scalar) :=
  withAttributes (identities context) extra

def admitted (attributes : List (Text × Value)) : Except Fault (List (Text × Value)) :=
  if attributes.any fun entry => entry.1 = "name" then .error .reservedAttribute
  else .ok attributes

end Span

end DroidRoots
