import DroidRoots.Hierarchy.Basic
import DroidRoots.Proofs.SearchRounds

/-! Supertypes as chains of listings. The supertypes of a class are the other classes that a
chain leads to, whether the listings have cycles or not. So a hierarchy knows all of them, and
whatever a supertype can be stored as, the class can be stored as, too. -/

namespace DroidRoots

namespace Digraph
variable {g : Digraph} {a b : Text}

def Climbs (g : Digraph) : Text → Text → Prop := Relation.TransGen fun a b => (a, b) ∈ g.arcs

theorem climbs_iff : g.Climbs a b ↔ ∃ first, (a, first) ∈ g.arcs ∧ g.Leads first b :=
  Relation.TransGen.head'_iff

/-- A search may begin with a node that is seen and with all that follows it still to visit. -/
theorem balanced_next (g : Digraph) (a : Text) : Search.Balanced g ⟨[a], g.next a⟩ := by
  intro name seen upper arc
  rw [List.mem_singleton.1 seen] at arc
  exact .inr (mem_next.2 arc)

theorem mem_above : b ∈ g.above a ↔ b ≠ a ∧ g.Climbs a b := by
  rw [above, NameSet.mem_ofList, List.mem_filter, mem_explore (g.balanced_next a), climbs_iff]
  constructor
  · rintro ⟨start | ⟨first, arc, path⟩, other⟩
    · simp [List.mem_singleton.1 start] at other
    · exact ⟨by simpa using other, first, mem_next.1 arc, path⟩
  · rintro ⟨other, first, arc, path⟩
    exact ⟨.inr ⟨first, mem_next.2 arc, path⟩, by simpa using other⟩

end Digraph

namespace Hierarchy
variable {h : Hierarchy} {a b c : Text}

def Lists (h : Hierarchy) (a b : Text) : Prop := ∃ uppers, (a, uppers) ∈ h.listed ∧ b ∈ uppers

theorem lists_iff : h.Lists a b ↔ ∃ e ∈ h.listed, e.1 = a ∧ b ∈ e.2 := by
  constructor
  · rintro ⟨uppers, given, member⟩
    exact ⟨_, given, rfl, member⟩
  · rintro ⟨⟨_, uppers⟩, given, rfl, member⟩
    exact ⟨uppers, given, member⟩

instance : Decidable (h.Lists a b) := decidable_of_iff' _ lists_iff

def Below (h : Hierarchy) : Text → Text → Prop := Relation.TransGen h.Lists

theorem mem_supertypes : b ∈ h.supertypes a ↔ b ≠ a ∧ h.Below a b := by
  have listed : (fun a b => (a, b) ∈ h.graph.arcs) = h.Lists := by
    funext a b
    exact propext mem_arcs_graph
  rw [supertypes, Digraph.mem_above, Digraph.Climbs, listed, Below]

theorem knows_of_lists (listed : h.Lists a b) : h.knows b = true := by
  obtain ⟨uppers, given, member⟩ := listed
  have found : (h.listed.any fun e => e.1 = b || decide (b ∈ e.2)) = true :=
    List.any_eq_true.2 ⟨_, given, by simp [member]⟩
  simp [knows, found]

theorem knows_of_mem_supertypes (above : b ∈ h.supertypes a) : h.knows b = true := by
  obtain ⟨-, chain⟩ := mem_supertypes.1 above
  obtain ⟨last, -, listed⟩ := Relation.TransGen.tail'_iff.1 chain
  exact knows_of_lists listed

theorem resolve_of_mem_supertypes (above : b ∈ h.supertypes a) : h.resolve b = some b := by
  rw [resolve, if_pos (knows_of_mem_supertypes above)]

theorem stores_iff :
    h.stores a b = true ↔ a = b ∨ b = Framework.rootType ∨ b ∈ h.supertypes a := by
  simp [stores, or_assoc]

theorem stores_of_below (chain : h.Below a b) : h.stores a b = true := by
  by_cases same : a = b
  · exact stores_iff.2 (.inl same)
  · exact stores_iff.2 (.inr (.inr (mem_supertypes.2 ⟨Ne.symm same, chain⟩)))

theorem stores_of_mem_supertypes (above : b ∈ h.supertypes a) (stored : h.stores b c = true) :
    h.stores a c = true := by
  obtain ⟨-, chain⟩ := mem_supertypes.1 above
  rcases stores_iff.1 stored with rfl | root | higher
  · exact stores_of_below chain
  · exact stores_iff.2 (.inr (.inl root))
  · exact stores_of_below (chain.trans (mem_supertypes.1 higher).2)

end Hierarchy

end DroidRoots
