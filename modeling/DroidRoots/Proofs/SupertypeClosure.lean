import DroidRoots.Proofs.SessionHistory
import DroidRoots.Proofs.Subtyping

/-! The supertypes that are answered. The search for them begins with what a class lists, never
goes on from the class itself, and comes to an end whatever cycles there are, in whatever order
the names are visited. Whoever was asked about before, the answer is the transitive closure of the
listings without the class itself. -/

namespace DroidRoots

namespace Digraph
variable {g : Digraph} {s t u : Search}

structure Search.SameWork (s t : Search) : Prop where
  seen : s.seen = t.seen
  todo : s.todo.Perm t.todo

namespace Search.SameWork

theorem remaining (same : s.SameWork t) : s.remaining g = t.remaining g := by
  rw [Search.remaining, Search.remaining, same.seen, same.todo.length_eq]

theorem balanced (same : s.SameWork t) (before : s.Balanced g) : t.Balanced g := by
  intro a seen b arc
  rw [← same.seen] at seen
  have reached := before a seen b arc
  rwa [same.seen, same.todo.mem_iff] at reached

theorem covers_iff (same : s.SameWork t) {name : Text} : t.Covers g name ↔ s.Covers g name := by
  simp only [Search.Covers, same.seen, same.todo.mem_iff]

end Search.SameWork

/-- A round that may begin with any of the names to visit and may line up the others anew, as a
stack, a queue or a set does. -/
def Turn (g : Digraph) (s t : Search) : Prop :=
  ∃ before after, s.SameWork before ∧ g.Round before after ∧ after.SameWork t

def Turns (g : Digraph) : Search → Search → Prop := Relation.ReflTransGen g.Turn

theorem Round.turn (round : g.Round s t) : g.Turn s t := ⟨s, t, ⟨rfl, .rfl⟩, round, ⟨rfl, .rfl⟩⟩

theorem Turn.remaining_lt (turn : g.Turn s t) : t.remaining g < s.remaining g := by
  obtain ⟨before, after, start, round, finish⟩ := turn
  rw [start.remaining, ← finish.remaining]
  exact round.remaining_lt

theorem Turn.balanced (turn : g.Turn s t) (start : s.Balanced g) : t.Balanced g := by
  obtain ⟨before, after, first, round, last⟩ := turn
  exact last.balanced (round.balanced (first.balanced start))

theorem Turn.covers_iff (turn : g.Turn s t) (start : s.Balanced g) {name : Text} :
    t.Covers g name ↔ s.Covers g name := by
  obtain ⟨before, after, first, round, last⟩ := turn
  exact last.covers_iff.trans ((round.covers_iff (first.balanced start)).trans first.covers_iff)

theorem no_endless_turns (g : Digraph) : WellFounded fun after before => g.Turn before after :=
  Subrelation.wf Turn.remaining_lt (measure (Search.remaining g)).wf

namespace Turns

theorem balanced (turns : g.Turns s t) (start : s.Balanced g) : t.Balanced g := by
  induction turns with
  | refl => exact start
  | tail _ turn ih => exact turn.balanced ih

theorem covers_iff (turns : g.Turns s t) (start : s.Balanced g) {name : Text} :
    t.Covers g name ↔ s.Covers g name := by
  induction turns with
  | refl => exact Iff.rfl
  | tail earlier turn ih => exact (turn.covers_iff (balanced earlier start)).trans ih

end Turns

end Digraph

namespace Hierarchy
variable {h : Hierarchy} {a b : Text}

def climb (h : Hierarchy) (name : Text) : Digraph.Search := ⟨[name], h.graph.next name⟩

theorem climb_turns (h : Hierarchy) (name : Text) :
    h.graph.Turns (h.climb name) ⟨h.graph.explore [name] (h.graph.next name), []⟩ :=
  Relation.ReflTransGen.mono (fun _ _ => Digraph.Round.turn) _ _
    (h.graph.explore_rounds [name] (h.graph.next name))

theorem mem_supertypes_of_turns {name upper : Text} {seen : List Text}
    (ended : h.graph.Turns (h.climb name) ⟨seen, []⟩) :
    upper ∈ h.supertypes name ↔ upper ∈ seen ∧ upper ≠ name := by
  have start : (h.climb name).Balanced h.graph := h.graph.balanced_next name
  have same : Digraph.Search.Covers h.graph ⟨seen, []⟩ upper ↔
      Digraph.Search.Covers h.graph ⟨h.graph.explore [name] (h.graph.next name), []⟩ upper :=
    (ended.covers_iff start).trans ((h.climb_turns name).covers_iff start).symm
  simp only [Digraph.Search.Covers, List.not_mem_nil, false_and, exists_false, or_false] at same
  rw [supertypes, Digraph.above, NameSet.mem_ofList, List.mem_filter, decide_eq_true_iff, same]

/-- A chain that comes back to its class says nothing new, since every class can be stored as
itself. -/
theorem stores_iff_below :
    h.stores a b = true ↔ a = b ∨ b = Framework.rootType ∨ h.Below a b := by
  constructor
  · intro stored
    rcases stores_iff.1 stored with same | root | above
    · exact .inl same
    · exact .inr (.inl root)
    · exact .inr (.inr (mem_supertypes.1 above).2)
  · rintro (same | root | chain)
    · exact stores_iff.2 (.inl same)
    · exact stores_iff.2 (.inr (.inl root))
    · exact stores_of_below chain

example :
    (supertypes ⟨[("a", .ofList ["a", "b"]), ("b", .ofList ["a", "c"])]⟩ "a").toList =
      [Text.of "b", Text.of "c"] := by
  decide +kernel

end Hierarchy

namespace Session

/-- A search for the supertypes of a class comes to an end in whatever order it visits them, and
has then seen the names that the hierarchy answers with, after any earlier requests. For every
class these are the other classes that a chain of one listing or more leads to. So a class can be
stored as itself, as the root type, and as whatever such a chain leads to. -/
theorem supertypes_exact (h : Hierarchy) (resolve : Text → Option Text) (degraded : Bool)
    (k : Catalog) (earlier : List Request) (name : Text) :
    let s := ofHierarchy h resolve degraded k
    let reached := s.after earlier {}
    (WellFounded fun after before => h.graph.Turn before after) ∧
    (∃ seen, h.graph.Turns (h.climb name) ⟨seen, []⟩) ∧
    (∃ uppers, ((s.answer (.supertypes name)).run.run reached).1 = .ok (.names uppers) ∧
      (∀ seen, h.graph.Turns (h.climb name) ⟨seen, []⟩ →
        ∀ upper, upper ∈ uppers ↔ upper ∈ seen ∧ upper ≠ name) ∧
      ∀ upper, upper ∈ uppers ↔ upper ≠ name ∧ h.Below name upper) ∧
    ∀ parent, ∃ holds,
      ((s.answer (.stores name parent)).run.run reached).1 = .ok (.flag holds) ∧
      (holds = true ↔ name = parent ∨ parent = Framework.rootType ∨ h.Below name parent) := by
  intro s reached
  have sound : s.classifier.IsOver h := isOver_ofHierarchy h resolve degraded k
  have right : reached.Faithful h s.classifier := faithful_after sound earlier
  have listed : ((s.answer (.supertypes name)).run.run reached).1 =
      .ok (.names (h.supertypes name)) := (answer_decides sound rfl reached right).1
  refine ⟨h.graph.no_endless_turns, ⟨_, h.climb_turns name⟩, ⟨h.supertypes name, listed,
    fun seen ended upper => Hierarchy.mem_supertypes_of_turns ended,
    fun upper => Hierarchy.mem_supertypes⟩, fun parent => ?_⟩
  have asked : ((s.answer (.stores name parent)).run.run reached).1 =
      .ok (.flag (h.stores name parent)) := (answer_decides sound rfl reached right).1
  exact ⟨h.stores name parent, asked, Hierarchy.stores_iff_below⟩

end Session

end DroidRoots
