import DroidRoots.Proofs.CallGraphEntries
import DroidRoots.Proofs.SearchRounds
import Mathlib.Data.Set.Card
import Mathlib.Order.Bounds.Basic

/-! What a report says is reachable: the least set of methods that holds the entry points and
the callees of its members. Spellings do not matter, since entry points and calls are in
canonical form, and neither do cycles, repeats and calls that cannot be read. -/

namespace DroidRoots

variable {c : Classifier} {k : Catalog}

def Method.IsCanonical (signature : Text) : Prop :=
  ∃ spelling m, parse spelling = .ok m ∧ signature = m.signature

theorem EntryPoint.select_ensures {found : Selection} (mentions : List Mention)
    (start : ∀ e ∈ found.chosen, Method.IsCanonical e) :
    Ensures (select c k found mentions) fun selection =>
      ∀ e ∈ selection.chosen, Method.IsCanonical e := by
  induction mentions generalizing found with
  | nil => exact .pure start
  | cons mention rest ih =>
    rw [select]
    refine Ensures.bind (.ofExcept mention.signature?) fun signature? _ => ?_
    cases signature? with
    | none => exact ih start
    | some signature =>
      cases parsed : Method.parse signature with
      | error fault =>
        simp only [parsed]
        exact ih start
      | ok m =>
        simp only [parsed]
        refine Ensures.lift_bind fun entry => ?_
        cases entry with
        | false => exact ih start
        | true =>
          refine ih fun e member => ?_
          rcases NameSet.mem_insert.1 member with rfl | old
          · exact ⟨signature, m, parsed, rfl⟩
          · exact start e old

namespace Discovery

structure Searched (callGraph : Value) (r : Report) : Prop where
  canonical : ∀ e ∈ r.entryPoints, Method.IsCanonical e
  reachable : ∃ graph : Digraph, (∀ a b, (a, b) ∈ graph.arcs ↔ Joins callGraph a b) ∧
    r.reachable = graph.reachable r.entryPoints.toList

variable {callGraph : Value}

theorem examine_ensures {g : CallGraph} (read : CallGraph.ofValue callGraph = .ok g)
    (source : Source) (mentions : List Mention) :
    Ensures (examine c k g source mentions) (Searched callGraph) := by
  have start : ∀ e ∈ NameSet.empty, Method.IsCanonical e :=
    fun e member => absurd member (NameSet.mem_empty e)
  refine Ensures.bind (EntryPoint.select_ensures mentions start) fun selection canonical => ?_
  refine Ensures.bind (.ofExcept (declaringClasses g.nodes)) fun declared _ => ?_
  refine Ensures.bind (.ofExcept (entryClasses selection.chosen)) fun entered _ => ?_
  refine Ensures.lift_bind fun roles => ?_
  refine Ensures.bind (.ofExcept (graphOf g.edges)) fun graph built => ?_
  exact .pure ⟨canonical, graph, fun a b => mem_arcs read built, rfl⟩

theorem run_ensures (given : Option Value) :
    Ensures (run c k callGraph given) (Searched callGraph) := by
  rw [run]
  refine Ensures.bind (.ofExcept (CallGraph.ofValue callGraph)) fun g read => ?_
  have examined (chosen : Source × List Mention) (_ : candidatesOf g given = .ok chosen) :
      Ensures (examine c k g chosen.1 chosen.2) (Searched callGraph) :=
    examine_ensures read chosen.1 chosen.2
  refine Ensures.bind (.inSpan (.bind (.ofExcept (candidatesOf g given)) examined))
    fun r searched => ?_
  by_cases skipped : r.unparsed ≠ 0
  · rw [if_pos skipped]
    exact Ensures.lift_bind fun _ => .pure searched
  · rw [if_neg skipped]
    exact .pure searched

def Closed (callGraph : Value) (roots : List Text) (members : Set Text) : Prop :=
  (∀ root ∈ roots, root ∈ members) ∧ ∀ a ∈ members, ∀ b, Joins callGraph a b → b ∈ members

variable {graph : Digraph}

theorem Closed.leads {roots : List Text} {members : Set Text}
    (closed : Closed callGraph roots members)
    (calls : ∀ a b, (a, b) ∈ graph.arcs ↔ Joins callGraph a b) {a b : Text} (member : a ∈ members)
    (path : graph.Leads a b) : b ∈ members := by
  induction path with
  | refl => exact member
  | tail _ arc ih => exact closed.2 _ ih _ ((calls _ _).1 arc)

theorem isLeast_reachable (calls : ∀ a b, (a, b) ∈ graph.arcs ↔ Joins callGraph a b)
    (roots : List Text) :
    IsLeast {members | Closed callGraph roots members}
      {name | name ∈ (graph.reachable roots).toList} := by
  refine ⟨⟨fun root given => ?_, fun a member b call => ?_⟩, fun members closed name member => ?_⟩
  · exact Digraph.mem_reachable.2 ⟨root, given, .refl⟩
  · obtain ⟨root, given, path⟩ := Digraph.mem_reachable.1 member
    exact Digraph.mem_reachable.2 ⟨root, given, path.tail ((calls a b).2 call)⟩
  · obtain ⟨root, given, path⟩ := Digraph.mem_reachable.1 member
    exact closed.leads calls (closed.1 root given) path

theorem ncard_toList (names : NameSet) : {name | name ∈ names.toList}.ncard = names.size := by
  rw [← List.coe_toFinset, Set.ncard_coe_finset,
    List.toFinset_card_of_nodup names.nodup_toList, NameSet.size]

/-- In whatever state a report is returned, a search from the entry points along the listed
calls comes to an end, and what it has seen is reachable: the least set that the entry points
belong to and that the calls do not leave. -/
theorem reachable_exact (c : Classifier) (k : Catalog) (callGraph : Value) (given : Option Value)
    (state : State) (r : Report)
    (returned : ((run c k callGraph given).run.run state).1 = .ok r) :
    let reached := {name | name ∈ r.reachable.toList}
    r.reachable.toList.Pairwise (· < ·) ∧
    IsLeast {members | Closed callGraph r.entryPoints.toList members} reached ∧
    (∀ name ∈ reached, Method.IsCanonical name) ∧
    (∃ graph : Digraph, (∀ a b, (a, b) ∈ graph.arcs ↔ Joins callGraph a b) ∧
      (WellFounded fun after before => graph.Round before after) ∧
      ∃ seen, graph.Rounds ⟨[], r.entryPoints.toList⟩ ⟨seen, []⟩ ∧
        ∀ name, name ∈ reached ↔ name ∈ seen) ∧
    ∃ fields counts, r.toValue = .object fields ∧
      Value.field? "reachable_methods" fields = some (.texts r.reachable.toList) ∧
      Value.field? "callgraph_summary" fields = some (.object counts) ∧
      Value.field? "reachable_count" counts = some (.nat reached.ncard) := by
  intro reached
  obtain ⟨canonical, graph, calls, searched⟩ := run_ensures given state r returned
  have least : IsLeast {members | Closed callGraph r.entryPoints.toList members} reached := by
    rw [show reached = {name | name ∈ r.reachable.toList} from rfl, searched]
    exact isLeast_reachable calls r.entryPoints.toList
  refine ⟨r.reachable.ascending, least, ?_, ⟨graph, calls, graph.no_endless_search, ?_⟩, ?_⟩
  · have closed : Closed callGraph r.entryPoints.toList {name | Method.IsCanonical name} := by
      refine ⟨canonical, ?_⟩
      rintro a - b ⟨fields, m, n, -, -, ⟨spelling, -, parsed⟩, -, rfl⟩
      exact ⟨spelling, n, parsed, rfl⟩
    exact least.2 closed
  · refine ⟨_, graph.explore_rounds [] r.entryPoints.toList, fun name => ?_⟩
    rw [show name ∈ reached ↔ name ∈ r.reachable from Iff.rfl, searched]
    exact NameSet.mem_ofList
  · refine ⟨_, _, rfl, rfl, rfl, ?_⟩
    rw [ncard_toList]
    rfl

theorem reachable_exact_cycle :
    let c : Classifier := {
      oracle := some (.relation fun _ _ => true)
      rules := [(.activity, "A")]
      application := none }
    let k : Catalog := ⟨"one", [(.activity, .ofList ["void onStart()"])]⟩
    let call (caller callee : Text) : Value :=
      .record [("caller", .text caller), ("callee", .text callee)]
    let callGraph := Value.record [
      ("nodes", .list [.record [("method", .text "<a.B: void onStart()>")]]),
      ("edges", .list [
        call "<a.B: void onStart()>" "<a.B: void f(int, int)>", .null,
        call "<a.B: void f(int,int)>" "La/B;->onStart()V", call "<a.B: void f(int,int)>" "f",
        call "La/B;->onStart()V" "La/B;->f(II)V", call "La/B;->f(II)V" "<a.B: void f(int,int)>",
        call "<c.D: void g()>" "<c.D: void h()>"])]
    ∃ r, ((run c k callGraph none).run.run {}).1 = .ok r ∧
      r.reachable.toList = [Text.of "<a.B: void f(int,int)>", Text.of "<a.B: void onStart()>"] ∧
      IsLeast {members | Closed callGraph r.entryPoints.toList members}
        {name | name ∈ r.reachable.toList} := by
  intro c k call callGraph
  have computed : ((run c k callGraph none).run.run {}).1.toOption.map (·.reachable.toList) =
      some [Text.of "<a.B: void f(int,int)>", Text.of "<a.B: void onStart()>"] := by
    decide +kernel
  obtain ⟨r, ended, reached⟩ := Option.map_eq_some_iff.1 computed
  have returned : ((run c k callGraph none).run.run {}).1 = .ok r := Outcome.eq_ok_of_toOption ended
  exact ⟨r, returned, reached, (reachable_exact c k callGraph none {} r returned).2.1⟩

end Discovery

end DroidRoots
