import DroidRoots.Hierarchy.Basic

/-! Supertypes that were computed once are kept. The answers are those of the
hierarchy itself as long as every kept closure is. -/

namespace DroidRoots

abbrev Closures := List (Text × NameSet)

namespace Hierarchy

def closure (h : Hierarchy) (kept : Closures) (name : Text) : NameSet × Closures :=
  match Assoc.get? name kept with
  | some found => (found, kept)
  | none => (h.supertypes name, (name, h.supertypes name) :: kept)

/-- Equal names and the root type are decided without a closure. -/
def ask (h : Hierarchy) (kept : Closures) (child parent : Text) : Bool × Closures :=
  if child = parent ∨ parent = Framework.rootType then (true, kept)
  else
    let (uppers, kept) := h.closure kept child
    (decide (parent ∈ uppers), kept)

def Faithful (h : Hierarchy) (kept : Closures) : Prop :=
  ∀ e ∈ kept, e.2 = h.supertypes e.1

theorem closure_fst {h : Hierarchy} {kept : Closures} (faithful : h.Faithful kept)
    (name : Text) : (h.closure kept name).1 = h.supertypes name := by
  unfold closure
  split
  · rename_i found
    exact faithful _ (Assoc.mem_of_get? found)
  · rfl

theorem ask_fst {h : Hierarchy} {kept : Closures} (faithful : h.Faithful kept)
    (child parent : Text) : (h.ask kept child parent).1 = h.stores child parent := by
  unfold ask stores
  split
  · rename_i easy
    rcases easy with same | root <;> simp [*]
  · rename_i hard
    obtain ⟨different, below⟩ := not_or.1 hard
    simp [different, below, closure_fst faithful]

end Hierarchy

end DroidRoots
