import DroidRoots.NameSet

/-! Directed graphs on names and what is reachable in them. Each step of a search
either drops a name that was seen before or uses up the arcs that leave a new one,
so a search ends on every graph, with cycles or without. -/

namespace DroidRoots

structure Digraph where
  arcs : List (Text × Text)

namespace Digraph

def next (g : Digraph) (name : Text) : List Text :=
  (g.arcs.filter fun arc => arc.1 = name).map (·.2)

@[simp] theorem mem_next {g : Digraph} {a b : Text} : b ∈ g.next a ↔ (a, b) ∈ g.arcs := by
  simp [next]

def unused (g : Digraph) (seen : List Text) : Nat :=
  (g.arcs.filter fun arc => arc.1 ∉ seen).length

theorem unused_cons {g : Digraph} {seen : List Text} {name : Text} (h : name ∉ seen) :
    g.unused (name :: seen) + (g.next name).length = g.unused seen := by
  simp only [unused, next, List.length_map]
  induction g.arcs with
  | nil => rfl
  | cons arc rest ih =>
    simp only [List.mem_cons] at ih
    by_cases same : arc.1 = name
    · simp only [List.filter_cons, same, List.mem_cons, true_or, not_true_eq_false, decide_false,
        Bool.false_eq_true, if_false, decide_true, if_true, List.length_cons, h, not_false_eq_true]
      omega
    · by_cases old : arc.1 ∈ seen <;>
        simp only [List.filter_cons, same, old, List.mem_cons, or_true, or_false, not_true_eq_false,
          not_false_eq_true, decide_false, decide_true, Bool.false_eq_true, if_false, if_true,
          List.length_cons] <;> omega

def explore (g : Digraph) (seen : List Text) : List Text → List Text
  | [] => seen
  | name :: todo =>
    if h : name ∈ seen then explore g seen todo
    else
      have := unused_cons (g := g) h
      explore g (name :: seen) (todo ++ g.next name)
termination_by todo => g.unused seen + todo.length

def reachable (g : Digraph) (roots : List Text) : NameSet := .ofList (g.explore [] roots)

def above (g : Digraph) (name : Text) : NameSet :=
  .ofList ((g.explore [name] (g.next name)).filter (· ≠ name))

end Digraph

end DroidRoots
