import DroidRoots.Digraph
import Mathlib.Logic.Relation
import Mathlib.Order.WellFounded

/-! A search of a graph goes on in rounds. No round changes which names the search will have
seen in the end, and there are no endless searches, so a search ends with the names that
paths lead to from where it began. -/

namespace DroidRoots.Digraph

def Leads (g : Digraph) : Text → Text → Prop := Relation.ReflTransGen fun a b => (a, b) ∈ g.arcs

structure Search where
  seen : List Text
  todo : List Text

inductive Round (g : Digraph) : Search → Search → Prop
  | drop {seen todo : List Text} {name : Text} (old : name ∈ seen) :
      Round g ⟨seen, name :: todo⟩ ⟨seen, todo⟩
  | visit {seen todo : List Text} {name : Text} (new : name ∉ seen) :
      Round g ⟨seen, name :: todo⟩ ⟨name :: seen, todo ++ g.next name⟩

namespace Search

def remaining (g : Digraph) (s : Search) : Nat := g.unused s.seen + s.todo.length

/-- The arcs from names that were seen lead to names that were seen or will be. -/
def Balanced (g : Digraph) (s : Search) : Prop :=
  ∀ a ∈ s.seen, ∀ b, (a, b) ∈ g.arcs → b ∈ s.seen ∨ b ∈ s.todo

def Covers (g : Digraph) (s : Search) (name : Text) : Prop :=
  name ∈ s.seen ∨ ∃ root ∈ s.todo, g.Leads root name

variable {g : Digraph} {s t : Search}

theorem Balanced.covers (balanced : s.Balanced g) {a b : Text} (seen : a ∈ s.seen)
    (path : g.Leads a b) : s.Covers g b := by
  induction path using Relation.ReflTransGen.head_induction_on with
  | refl => exact .inl seen
  | head arc rest ih =>
    rcases balanced _ seen _ arc with seen | waiting
    · exact ih seen
    · exact .inr ⟨_, waiting, rest⟩

end Search

namespace Round
variable {g : Digraph} {s t : Search}

theorem remaining_lt (round : g.Round s t) : t.remaining g < s.remaining g := by
  cases round with
  | drop old => simp [Search.remaining]
  | visit new =>
    have used := unused_cons (g := g) new
    simp only [Search.remaining, List.length_cons, List.length_append]
    omega

theorem balanced (round : g.Round s t) (before : s.Balanced g) : t.Balanced g := by
  cases round with
  | drop old =>
    intro a seen b arc
    rcases before a seen b arc with known | waiting
    · exact .inl known
    · rcases List.mem_cons.1 waiting with rfl | later
      · exact .inl old
      · exact .inr later
  | visit new =>
    intro a seen b arc
    rcases List.mem_cons.1 seen with rfl | seen
    · exact .inr (List.mem_append_right _ (mem_next.2 arc))
    · rcases before a seen b arc with known | waiting
      · exact .inl (List.mem_cons_of_mem _ known)
      · rcases List.mem_cons.1 waiting with rfl | later
        · exact .inl (List.mem_cons_self ..)
        · exact .inr (List.mem_append_left _ later)

theorem covers_iff (round : g.Round s t) (before : s.Balanced g) {name : Text} :
    t.Covers g name ↔ s.Covers g name := by
  have after := round.balanced before
  cases round with
  | drop old =>
    constructor
    · rintro (seen | ⟨root, waiting, path⟩)
      · exact .inl seen
      · exact .inr ⟨root, List.mem_cons_of_mem _ waiting, path⟩
    · rintro (seen | ⟨root, waiting, path⟩)
      · exact .inl seen
      -- The dropped name was seen before, so the names left cover all that it leads to.
      · rcases List.mem_cons.1 waiting with rfl | later
        · exact after.covers old path
        · exact .inr ⟨root, later, path⟩
  | visit new =>
    constructor
    · rintro (seen | ⟨root, waiting, path⟩)
      · rcases List.mem_cons.1 seen with rfl | seen
        · exact .inr ⟨name, List.mem_cons_self .., .refl⟩
        · exact .inl seen
      · rcases List.mem_append.1 waiting with later | next
        · exact .inr ⟨root, List.mem_cons_of_mem _ later, path⟩
        · exact .inr ⟨_, List.mem_cons_self .., path.head (mem_next.1 next)⟩
    · rintro (seen | ⟨root, waiting, path⟩)
      · exact .inl (List.mem_cons_of_mem _ seen)
      · rcases List.mem_cons.1 waiting with rfl | later
        · exact after.covers (List.mem_cons_self ..) path
        · exact .inr ⟨root, List.mem_append_left _ later, path⟩

end Round

def Rounds (g : Digraph) : Search → Search → Prop := Relation.ReflTransGen g.Round

variable {g : Digraph} {s t : Search}

theorem Rounds.balanced (rounds : g.Rounds s t) (start : s.Balanced g) : t.Balanced g := by
  induction rounds with
  | refl => exact start
  | tail _ round ih => exact round.balanced ih

theorem Rounds.covers_iff (rounds : g.Rounds s t) (start : s.Balanced g) {name : Text} :
    t.Covers g name ↔ s.Covers g name := by
  induction rounds with
  | refl => exact Iff.rfl
  | tail earlier round ih =>
    have between := Rounds.balanced earlier start
    exact (round.covers_iff between).trans ih

theorem no_endless_search (g : Digraph) : WellFounded fun after before => g.Round before after :=
  Subrelation.wf Round.remaining_lt (measure (Search.remaining g)).wf

theorem explore_rounds (g : Digraph) (seen todo : List Text) :
    g.Rounds ⟨seen, todo⟩ ⟨g.explore seen todo, []⟩ := by
  induction seen, todo using explore.induct g with
  | case1 seen =>
    rw [explore]
    exact .refl
  | case2 seen name todo old ih =>
    rw [explore, dif_pos old]
    exact ih.head (.drop old)
  | case3 seen name todo new used ih =>
    rw [explore, dif_neg new]
    exact ih.head (.visit new)

theorem mem_explore {seen todo : List Text} (balanced : Search.Balanced g ⟨seen, todo⟩)
    {name : Text} :
    name ∈ g.explore seen todo ↔ name ∈ seen ∨ ∃ root ∈ todo, g.Leads root name := by
  have covered : Search.Covers g ⟨g.explore seen todo, []⟩ name ↔
      Search.Covers g ⟨seen, todo⟩ name :=
    (explore_rounds g seen todo).covers_iff balanced
  simpa [Search.Covers] using covered

theorem mem_reachable {roots : List Text} {name : Text} :
    name ∈ g.reachable roots ↔ ∃ root ∈ roots, g.Leads root name := by
  have balanced : Search.Balanced g ⟨[], roots⟩ := fun a seen => absurd seen List.not_mem_nil
  rw [reachable, NameSet.mem_ofList, mem_explore balanced]
  simp

end DroidRoots.Digraph
