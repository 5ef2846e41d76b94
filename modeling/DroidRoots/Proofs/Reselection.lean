import DroidRoots.Proofs.DiscoveryReport

/-! Entry points that are selected again. Those of a report are in canonical form, so each of them
is read as the method that it was printed from and is an entry point once more. A discovery that is
given them ends in the same report, and a filter leaves them as they are. -/

namespace DroidRoots

variable {c : Classifier} {k : Catalog}

theorem Mention.texts_map_text {signatures : List Text}
    (present : ∀ signature ∈ signatures, signature ≠ []) :
    texts (signatures.map .text) = .ok signatures := by
  induction signatures with
  | nil => rfl
  | cons signature rest ih =>
    have own := present signature (List.mem_cons_self ..)
    have others := ih fun other member => present other (List.mem_cons_of_mem _ member)
    rw [List.map_cons, texts_cons, others, signature?, if_neg own]
    rfl

namespace EntryPoint

def IsRoot (c : Classifier) (k : Catalog) (signature : Text) : Prop :=
  ∃ m, Method.parse signature = .ok m ∧ holds c k m = true ∧ m.signature = signature

theorem IsRoot.ne_nil {signature : Text} (root : IsRoot c k signature) : signature ≠ [] := by
  obtain ⟨m, -, -, printed⟩ := root
  rw [← printed]
  exact List.cons_ne_nil _ _

theorem consider_root {found : Selection} {signature : Text} (root : IsRoot c k signature) :
    consider c k found signature = { found with chosen := found.chosen.insert signature } := by
  obtain ⟨m, parsed, entry, printed⟩ := root
  simp only [consider, parsed, entry, if_true, printed]

theorem foldl_consider_roots (found : Selection) {signatures : List Text}
    (roots : ∀ signature ∈ signatures, IsRoot c k signature) :
    (∀ e, e ∈ (signatures.foldl (consider c k) found).chosen ↔
      e ∈ found.chosen ∨ e ∈ signatures) ∧
    (signatures.foldl (consider c k) found).unparsed = found.unparsed := by
  induction signatures generalizing found with
  | nil => simp
  | cons signature rest ih =>
    have others := ih { found with chosen := found.chosen.insert signature }
      fun other member => roots other (List.mem_cons_of_mem _ member)
    rw [List.foldl_cons, consider_root (roots signature (List.mem_cons_self ..))]
    refine ⟨fun e => ?_, others.2⟩
    rw [others.1, NameSet.mem_insert, List.mem_cons, or_comm (a := e = signature), or_assoc]

theorem selected_roots {chosen : NameSet} (roots : ∀ e ∈ chosen, IsRoot c k e) :
    selected c k ⟨.empty, 0⟩ (chosen.toList.map .text) = .ok ⟨chosen, 0⟩ := by
  have present : ∀ e ∈ chosen.toList, e ≠ [] := fun e member => (roots e member).ne_nil
  obtain ⟨members, counted⟩ := foldl_consider_roots ⟨.empty, 0⟩ roots
  rw [selected, Mention.texts_map_text present]
  apply congrArg Except.ok
  refine Selection.ext_mem (fun e => ?_) counted
  rw [members e]
  simp [NameSet.mem_toList]

end EntryPoint

theorem Mention.ofElements?_texts (names : List Text) :
    ofElements? (.texts names) = some (names.map .text) := by
  simp only [ofElements?, Value.texts, Value.elements?, Option.map_some, List.map_map]
  rfl

namespace Discovery
variable {callGraph : Value} {given : Option Value} {r : Report}

theorem isRoot_of_outcome (ended : outcome c k callGraph given = .ok r) :
    ∀ e ∈ r.entryPoints, EntryPoint.IsRoot c k e := by
  obtain ⟨g, source, mentions, selection, declared, entered, graph, read, found, chosen, -, parsed,
    -, rfl⟩ := exists_of_outcome ended
  have exactly (e : Text) := mem_selected (e := e) read found chosen
  intro e member
  obtain ⟨m, selected, rfl⟩ := (exactly e).1 member
  have again := parse_of_entryClasses exactly parsed selected
  exact ⟨m, again, (EntryPoint.holds_iff again).2 selected.2, rfl⟩

theorem outcome_again (ended : outcome c k callGraph given = .ok r) :
    outcome c k callGraph (some (.texts r.entryPoints.toList)) =
      .ok { r with unparsed := 0, source := .given } := by
  have roots := isRoot_of_outcome ended
  obtain ⟨g, source, mentions, selection, declared, entered, graph, read, -, -, collected, parsed,
    built, rfl⟩ := exists_of_outcome ended
  have selected := EntryPoint.selected_roots roots
  -- the selection is the only stage that reads what is given; the others run as before
  simp only [reportOn] at selected ⊢
  simp only [outcome, examined, read, candidatesOf, Mention.ofElements?_texts, selected, collected,
    parsed, built, bind, Except.bind]
  rfl

theorem filtered_again (ended : outcome c k callGraph given = .ok r) :
    EntryPoint.filtered c k (.texts r.entryPoints.toList) = .ok r.entryPoints := by
  have selected := EntryPoint.selected_roots (isRoot_of_outcome ended)
  rw [EntryPoint.filtered, Mention.ofElements?_texts]
  simp only [selected]
  rfl

/-- Whenever a discovery has returned a report, one on the same call graph that is given the entry
points of the report returns as well. Its report differs in nothing but that all candidates could
be read and that they were given, and a filter lets all of these entry points through. -/
theorem report_fixed (s : Session) (sound : s.classifier.IsOver s.hierarchy) (callGraph : Value)
    (given : Option Value) (earlier later : List Session.Request) (r : Report)
    (returned : ((run s.classifier s.catalog callGraph given).run.run
      (s.after earlier {})).1 = .ok r) :
    let roots := Value.texts r.entryPoints.toList
    let again : Report := { r with unparsed := 0, source := .given }
    ((run s.classifier s.catalog callGraph (some roots)).run.run (s.after later {})).1 =
      .ok again ∧
    again.toValue = .record [("entrypoints", roots),
      ("components", .record (r.components.map fun entry => (entry.1, .text entry.2.title))),
      ("reachable_methods", .texts r.reachable.toList),
      ("callgraph_summary", .record [("node_count", .nat r.nodeCount),
        ("edge_count", .nat r.edgeCount), ("entrypoint_count", .nat r.entryPoints.size),
        ("reachable_count", .nat r.reachable.size), ("unparsed_methods", .nat 0),
        ("entrypoints_source", .text "override")])] ∧
    ((EntryPoint.filter s.classifier s.catalog roots).run.run (s.after later {})).1 =
      .ok r.entryPoints := by
  intro roots again
  have before := Session.faithful_after sound earlier
  have after := Session.faithful_after sound later
  have ended : outcome s.classifier s.catalog callGraph given = .ok r :=
    (run_decides sound s.catalog callGraph given _ before).1.symm.trans returned
  refine ⟨?_, rfl, ?_⟩
  · rw [(run_decides sound s.catalog callGraph (some roots) _ after).1]
    exact outcome_again ended
  · rw [(EntryPoint.filter_decides sound s.catalog roots _ after).1]
    exact filtered_again ended

theorem report_fixed_spelled :
    let stores (child parent : Text) : Bool :=
      child = Text.of "a.B" && parent = Text.of "android.app.Activity"
    let s : Session := ⟨⟨[]⟩, .ofResolver (some (.relation stores)) some,
      ⟨"one", [(.activity, .ofList ["void onStart()"])]⟩⟩
    let callGraph := Value.record [
      ("nodes", .list [.record [("method", .text "La/B;->onStart()V")],
        .record [("method", .text "<a.B : void onStart( )>")], .record [("method", .text "f")]]),
      ("edges", .list [.record [("caller", .text "<a.B: void onStart()>"),
        ("callee", .text "<c.D: void f(int, int)>")]])]
    s.classifier.IsOver s.hierarchy ∧
      ∃ r, ((run s.classifier s.catalog callGraph none).run.run (s.after [] {})).1 = .ok r ∧
        r.entryPoints.toList = [Text.of "<a.B: void onStart()>"] ∧ r.unparsed = 1 ∧
        ((run s.classifier s.catalog callGraph (some (.texts r.entryPoints.toList))).run.run
          (s.after [.discover callGraph none] {})).1 =
            .ok { r with unparsed := 0, source := .given } := by
  intro stores s callGraph
  have sound : s.classifier.IsOver s.hierarchy := Classifier.isOver_of_relation rfl s.hierarchy
  have computed : ((run s.classifier s.catalog callGraph none).run.run
      (s.after [] {})).1.toOption.map (fun r => (r.entryPoints.toList, r.unparsed)) =
      some ([Text.of "<a.B: void onStart()>"], 1) := by
    decide +kernel
  obtain ⟨r, found, parts⟩ := Option.map_eq_some_iff.1 computed
  obtain ⟨entries, skipped⟩ := Prod.mk.inj parts
  have returned := Outcome.eq_ok_of_toOption found
  have fixed := report_fixed s sound callGraph none [] [.discover callGraph none] r returned
  exact ⟨sound, r, returned, entries, skipped, fixed.1⟩

end Discovery

end DroidRoots
