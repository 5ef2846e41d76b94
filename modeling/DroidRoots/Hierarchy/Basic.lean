import DroidRoots.Assoc
import DroidRoots.Digraph
import DroidRoots.Framework

/-! Class hierarchies: for each given class the supertypes listed for it, which may be
direct or not and need not be given themselves. The supertypes of a class are all that
a chain of listings leads to; a value of a class can be stored where a supertype of it
is expected, and any value where the root type is. -/

namespace DroidRoots

structure Hierarchy where
  listed : List (Text × NameSet)

namespace Hierarchy

def empty : Hierarchy := ⟨[]⟩

def size (h : Hierarchy) : Nat := h.listed.length

/-- Known are the given classes, what is listed for them, and the root type. -/
def knows (h : Hierarchy) (name : Text) : Bool :=
  name = Framework.rootType || h.listed.any fun e => e.1 = name || decide (name ∈ e.2)

def resolve (h : Hierarchy) (name : Text) : Option Text :=
  if h.knows name then some name else none

def graph (h : Hierarchy) : Digraph :=
  ⟨h.listed.flatMap fun e => e.2.toList.map fun upper => (e.1, upper)⟩

@[simp] theorem mem_arcs_graph {h : Hierarchy} {a b : Text} :
    (a, b) ∈ h.graph.arcs ↔ ∃ uppers, (a, uppers) ∈ h.listed ∧ b ∈ uppers := by
  simp only [graph, List.mem_flatMap, List.mem_map, Prod.exists, Prod.mk.injEq]
  constructor
  · rintro ⟨k, uppers, given, upper, listed, rfl, rfl⟩
    exact ⟨uppers, given, listed⟩
  · rintro ⟨uppers, given, listed⟩
    exact ⟨a, uppers, given, b, listed, rfl, rfl⟩

def supertypes (h : Hierarchy) (name : Text) : NameSet := h.graph.above name

def stores (h : Hierarchy) (child parent : Text) : Bool :=
  child = parent || parent = Framework.rootType || decide (parent ∈ h.supertypes child)

end Hierarchy

end DroidRoots
