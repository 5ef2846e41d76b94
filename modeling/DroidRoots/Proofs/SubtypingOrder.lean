import DroidRoots.Proofs.HierarchyListings
import Mathlib.Data.Fintype.EquivFin

/-! Subtyping as an order. Every class can be stored as itself and as the root type. What the root
type can be stored as, other classes can not unless their own listings lead there, so that the
order is transitive exactly if the root type has no supertypes. -/

namespace DroidRoots

theorem Text.exists_notMem (names : List Text) : ∃ name : Text, name ∉ names := by
  have some : Nonempty CodePoint := ⟨.char 'a'⟩
  simpa using Infinite.exists_notMem_finset names.toFinset

namespace Hierarchy
open Framework
variable {h : Hierarchy} {a b c : Text}

theorem not_mem_supertypes (new : a ∉ h.listed.map (·.1)) : b ∉ h.supertypes a := by
  intro above
  obtain ⟨-, chain⟩ := mem_supertypes.1 above
  obtain ⟨first, ⟨uppers, given, -⟩, -⟩ := Relation.TransGen.head'_iff.1 chain
  exact new (List.mem_map.2 ⟨_, given, rfl⟩)

theorem stores_trans (between : b ≠ rootType) (first : h.stores a b = true)
    (second : h.stores b c = true) : h.stores a c = true := by
  rcases stores_iff.1 first with rfl | root | above
  · exact second
  · exact absurd root between
  · exact stores_of_mem_supertypes above second

theorem stores_trans_iff :
    (∀ a b c, h.stores a b = true → h.stores b c = true → h.stores a c = true) ↔
      ∀ upper, upper ∉ h.supertypes rootType := by
  constructor
  · intro transitive upper above
    have other : upper ≠ rootType := (mem_supertypes.1 above).1
    obtain ⟨a, new⟩ := Text.exists_notMem (upper :: h.listed.map (·.1))
    have stored : h.stores a upper = true :=
      transitive a rootType upper (stores_iff.2 (.inr (.inl rfl)))
        (stores_iff.2 (.inr (.inr above)))
    -- a class that is mentioned nowhere can be stored as itself and the root type only
    rcases stores_iff.1 stored with rfl | root | high
    · exact new (List.mem_cons_self ..)
    · exact other root
    · exact not_mem_supertypes (fun given => new (List.mem_cons_of_mem _ given)) high
  · intro least a b c first second
    by_cases root : b = rootType
    · subst root
      rcases stores_iff.1 second with rfl | root | above
      · exact first
      · exact stores_iff.2 (.inr (.inl root))
      · exact absurd above (least c)
    · exact stores_trans root first second

/-- Subtyping over a document is reflexive and has the root type on top. It is transitive wherever
the type in the middle is not the root type, and so it is a preorder exactly if the document lists
nothing as a supertype of the root type. -/
theorem stores_preorder_iff (document : Value) (h : Hierarchy) (read : ofValue document = .ok h) :
    (∀ a, h.stores a a = true) ∧ (∀ a, h.stores a rootType = true) ∧
    (∀ a b c, b ≠ rootType → h.stores a b = true → h.stores b c = true → h.stores a c = true) ∧
    ((∀ a b c, h.stores a b = true → h.stores b c = true → h.stores a c = true) ↔
      ∀ upper, ¬Names document rootType upper) := by
  refine ⟨fun a => stores_iff.2 (.inl rfl), fun a => stores_iff.2 (.inr (.inl rfl)),
    fun a b c => stores_trans, stores_trans_iff.trans ?_⟩
  constructor
  · intro least upper named
    have listed : h.Lists rootType upper := (lists_iff_names read).2 named
    exact least upper (mem_supertypes.2 ⟨named.1, .single listed⟩)
  · intro none upper above
    obtain ⟨-, chain⟩ := mem_supertypes.1 above
    obtain ⟨first, listed, -⟩ := Relation.TransGen.head'_iff.1 chain
    exact none first ((lists_iff_names read).1 listed)

theorem stores_preorder_iff_cycle :
    let document := Value.record [("classes", .record [("a.B", .list [.text "c.D"]),
      ("c.D", .record [("superclass", .text "a.B"), ("interfaces", .list [.text "e.F"])]),
      ("java.lang.Object", .list [.text "java.lang.Object"])])]
    ∃ h, ofValue document = .ok h ∧ h.stores "a.B" "e.F" = true ∧
      ∀ a b c, h.stores a b = true → h.stores b c = true → h.stores a c = true := by
  intro document
  let h : Hierarchy := ⟨[("a.B", .ofList ["c.D"]), ("c.D", .ofList ["a.B", "e.F"]),
    ("java.lang.Object", .empty)]⟩
  have read : ofValue document = .ok h := rfl
  refine ⟨h, read, by decide +kernel, (stores_preorder_iff document h read).2.2.2.2 ?_⟩
  intro upper named
  obtain ⟨e, given, root, member⟩ := lists_iff.1 ((lists_iff_names read).2 named)
  have every : ∀ e ∈ h.listed, e.1 = rootType → e.2.toList = [] := by decide +kernel
  have none : upper ∉ e.2.toList := by simp [every e given root]
  exact none member

theorem stores_past_root :
    let document := Value.record [("classes", .record [
      ("java.lang.Object", .list [.text "java.io.Serializable"]), ("a.B", .list [])])]
    ∃ h, ofValue document = .ok h ∧ h.stores "a.B" "java.lang.Object" = true ∧
      h.stores "java.lang.Object" "java.io.Serializable" = true ∧
      h.stores "a.B" "java.io.Serializable" = false := by
  intro document
  exact ⟨⟨[("java.lang.Object", .ofList ["java.io.Serializable"]), ("a.B", .empty)]⟩, rfl,
    by decide +kernel, by decide +kernel, by decide +kernel⟩

end Hierarchy

end DroidRoots
