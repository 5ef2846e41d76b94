import DroidRoots.Proofs.DiscoveryReport
import DroidRoots.Proofs.Inquiries
import Mathlib.Data.List.TakeWhile

/-! Sessions without an oracle. Every class is taken for a plain one, with one warning when it is
first classified, and reports are bare. What a discovery warns about are the classes of its
candidates in their order, then those of its nodes in ascending order, as far as they are new. -/

namespace DroidRoots

def State.warnings (s : State) : List Text := (s.notices.filter Notice.isWarning).map Notice.line

def assumption (name : Text) : Text :=
  "WARNING No class hierarchy, assuming " ++ name ++ " is a plain class"

theorem line_assumedPlain (name : Text) : (Notice.assumedPlain name).line = assumption name := by
  have opening : Text.of "WARNING " ++ Text.of "No class hierarchy, assuming " =
      Text.of "WARNING No class hierarchy, assuming " := by
    decide
  rw [assumption, ← opening, List.append_assoc, List.append_assoc]
  rfl

structure Report.IsBare (r : Report) : Prop where
  entryPoints : r.entryPoints = .empty
  components : r.components = []
  reachable : r.reachable = .empty

theorem Report.IsBare.toValue {r : Report} (bare : r.IsBare) :
    r.toValue = .record [("entrypoints", .texts []), ("components", .record []),
      ("reachable_methods", .texts []), ("callgraph_summary", r.summary)] := by
  rw [Report.toValue, toFields, bare.entryPoints, bare.components, bare.reachable]
  rfl

variable {c : Classifier} {k : Catalog}

namespace Classifier

theorem isOver_of_degraded (alone : c.oracle = none) (h : Hierarchy) : c.IsOver h := by
  intro other asked
  rw [alone] at asked
  cases asked

theorem roleIn_degraded (alone : c.oracle = none) (name : Text) : c.roleIn name = .plain := by
  rw [roleIn, alone]

theorem lines_doubts (alone : c.oracle = none) (names : List Text) :
    (names.flatMap c.doubts).map Notice.line = names.map assumption := by
  have each : c.doubts = fun name => [.assumedPlain name] := by
    funext name
    simp [doubts, degraded, alone]
  rw [each, ← List.map_eq_flatMap, List.map_map]
  exact List.map_congr_left fun name _ => line_assumedPlain name

end Classifier

namespace EntryPoint

theorem considered_of_texts {mentions : List Mention} {signatures : List Text}
    (read : Mention.texts mentions = .ok signatures) :
    considered mentions = (mentions.filterMap Mention.method?).map (·.declaring) := by
  have textual : ∀ mention ∈ mentions, mention ≠ .foreign := by
    intro mention member
    obtain ⟨found, collected, -⟩ := Outcome.map_ok read
    obtain ⟨signature, settled⟩ := Outcome.exists_of_mapM collected mention member
    rintro rfl
    cases settled
  have whole : mentions.takeWhile (· ≠ .foreign) = mentions := by
    apply List.takeWhile_eq_self_iff.2
    simpa using textual
  rw [considered, whole]

end EntryPoint

namespace Discovery
variable {callGraph : Value} {given : Option Value} {g : CallGraph} {source : Source}
  {mentions : List Mention}

theorem chosen_degraded (alone : c.oracle = none) {selection : EntryPoint.Selection}
    (read : CallGraph.ofValue callGraph = .ok g)
    (found : candidatesOf g given = .ok (source, mentions))
    (chosen : EntryPoint.selected c k ⟨.empty, 0⟩ mentions = .ok selection) :
    selection.chosen = .empty := by
  apply NameSet.ext_mem
  intro e
  rw [mem_selected read found chosen]
  constructor
  · rintro ⟨m, ⟨-, driven, -⟩, -⟩
    rw [Classifier.roleIn_degraded alone] at driven
    cases driven
  · intro none
    exact absurd none (NameSet.mem_empty e)

theorem reportOn_degraded (alone : c.oracle = none) {selection : EntryPoint.Selection}
    (bare : selection.chosen = .empty) (classes : List Text) (graph : Digraph) :
    (reportOn c g source selection classes graph).IsBare where
  entryPoints := bare
  components := by
    apply List.eq_nil_iff_forall_not_mem.2
    intro entry member
    obtain ⟨-, role, part⟩ := mem_componentsOf.1 member
    exact part (role.trans (Classifier.roleIn_degraded alone entry.1))
  reachable := by
    rw [reportOn, bare, NameSet.empty, Digraph.reachable, Digraph.explore]
    rfl

theorem runClasses_of_report {selection : EntryPoint.Selection} {declared entered : List Text}
    (read : CallGraph.ofValue callGraph = .ok g)
    (found : candidatesOf g given = .ok (source, mentions))
    (chosen : EntryPoint.selected c k ⟨.empty, 0⟩ mentions = .ok selection)
    (collected : declaringClasses g.nodes = .ok declared)
    (parsed : entryClasses selection.chosen = .ok entered) :
    runClasses c k callGraph given = (mentions.filterMap Mention.method?).map (·.declaring) ++
      (NameSet.ofList (declared ++ entered)).toList := by
  obtain ⟨signatures, texts, -⟩ := Outcome.map_ok chosen
  have about : concerned c k g mentions = .ok (.ofList (declared ++ entered)) := by
    simp [concerned, chosen, collected, parsed, bind, Except.bind, pure, Except.pure]
  have considered := EntryPoint.considered_of_texts texts
  simp [runClasses, examineClasses, listFrom, read, found, about, considered]

end Discovery

namespace Session
variable {s : Session}

theorem warnings_after (sound : s.classifier.IsOver s.hierarchy)
    (alone : s.classifier.oracle = none) (requests : List Request) :
    (s.after requests {}).warnings =
      (classesOf (requests.flatMap s.inquiries)).map assumption := by
  have accounts := congrArg Ledger.warnings (ledger_after sound requests)
  rw [← Classifier.lines_doubts alone]
  exact congrArg (List.map Notice.line) accounts

theorem warnings_answer (sound : s.classifier.IsOver s.hierarchy)
    (alone : s.classifier.oracle = none) (requests : List Request) (request : Request) :
    ((s.answer request).run.run (s.after requests {})).2.warnings =
      (classesOf (requests.flatMap s.inquiries) ++
        freshNames (classesOf (requests.flatMap s.inquiries))
          ((s.inquiries request).filterMap Inquiry.classified?)).map assumption := by
  have onward := answer_records sound request _ (faithful_after sound requests)
  rw [ledger_after sound requests, Ledger.enterAll_eq] at onward
  have added := congrArg Ledger.warnings onward
  rw [← Classifier.lines_doubts alone, List.flatMap_append]
  exact congrArg (List.map Notice.line) added

theorem roles_after_degraded (sound : s.classifier.IsOver s.hierarchy)
    (alone : s.classifier.oracle = none) (requests : List Request) :
    (s.after requests {}).roles =
      ((classesOf (requests.flatMap s.inquiries)).map fun name => (name, Role.plain)).reverse := by
  have plain (e : Text × Role) (member : e ∈ (s.after requests {}).roles) :
      (e.1, Role.plain) = e := by
    have role := (faithful_after sound requests).roles e member
    rw [← Classifier.roleIn_degraded alone e.1, ← role]
  rw [← classes_after sound requests, List.map_reverse, List.reverse_reverse, List.map_map]
  exact ((List.map_congr_left plain).trans (List.map_id _)).symm

/-- Without an oracle, and after any requests, also failed ones, the classes that were classified
are kept as plain classes, and the warnings are one for each of them, in the order in which they
were first classified. Questions about applications leave no trace. If a discovery returns, its
report is bare, and it adds warnings about the new classes of the candidates that can be read, in
their order, and then about the other new classes of the nodes in ascending order. -/
theorem degraded_warnings (s : Session) (alone : s.classifier.oracle = none)
    (requests : List Request) :
    let reached := s.after requests {}
    let classified := classesOf (requests.flatMap s.inquiries)
    classified.Nodup ∧
    (∀ name, name ∈ classified ↔ ∃ request ∈ requests, .role name ∈ s.inquiries request) ∧
    reached.roles = (classified.map fun name => (name, Role.plain)).reverse ∧
    reached.warnings = classified.map assumption ∧
    (∀ name, (s.answer (.isApplication name)).run.run reached = (.ok (.flag false), reached)) ∧
    (∀ name, ((s.answer (.role name)).run.run reached).1 = .ok (.role .plain)) ∧
    (∀ names, ((s.answer (.classify names)).run.run reached).1 =
      .ok (.roles (names.eraseDups.map fun name => (name, .plain)))) ∧
    ∀ callGraph given r final,
      (s.answer (.discover callGraph given)).run.run reached = (.ok (.report r), final) →
      r.IsBare ∧
      r.toValue = .record [("entrypoints", .texts []), ("components", .record []),
        ("reachable_methods", .texts []), ("callgraph_summary", r.summary)] ∧
      ∃ g source mentions, ∃ nodeClasses : NameSet,
        CallGraph.ofValue callGraph = .ok g ∧
        Discovery.candidatesOf g given = .ok (source, mentions) ∧
        (∀ name, name ∈ nodeClasses ↔ ∃ fields,
          CallGraph.Entry "nodes" callGraph (.object fields) ∧ Discovery.Declares fields name) ∧
        let first := freshNames classified
          ((mentions.filterMap Mention.method?).map (·.declaring))
        let second := nodeClasses.toList.filter (· ∉ classified ++ first)
        final.warnings = (classified ++ (first ++ second)).map assumption := by
  intro reached classified
  have sound : s.classifier.IsOver s.hierarchy := Classifier.isOver_of_degraded alone s.hierarchy
  have right := faithful_after sound requests
  have plain := Classifier.roleIn_degraded alone
  refine ⟨nodup_classesOf _, fun name => ?_, roles_after_degraded sound alone requests,
    warnings_after sound alone requests, fun name => ?_, fun name => ?_, fun names => ?_,
    fun callGraph given r final returned => ?_⟩
  · rw [mem_classesOf, List.mem_flatMap]
  · have unasked : s.classifier.isApplication name = pure false := by
      rw [Classifier.isApplication, alone]
    rw [answer, unasked]
    rfl
  · have question : (Request.role name).isMeter = false := rfl
    rw [(answer_decides sound question reached right).1, outcome, plain]
  · have question : (Request.classify names).isMeter = false := rfl
    rw [(answer_decides sound question reached right).1, outcome]
    simp only [plain]
  · have ended := outcome_of_discover sound requests returned
    obtain ⟨g, source, mentions, selection, declared, entered, graph, read, found, chosen,
      collected, parsed, built, rfl⟩ := Discovery.exists_of_outcome ended
    have bare := Discovery.chosen_degraded alone read found chosen
    have reported : (Discovery.reportOn s.classifier g source selection (declared ++ entered)
        graph).IsBare :=
      Discovery.reportOn_degraded alone bare _ graph
    refine ⟨reported, reported.toValue, g, source, mentions, .ofList declared, read, found,
      fun name => ?_, ?_⟩
    · rw [NameSet.mem_ofList, Discovery.mem_declaringClasses read collected]
    · -- no class of an entry point is among them, so the second pass is over the nodes alone
      have classes := Discovery.runClasses_of_report read found chosen collected parsed
      rw [bare] at parsed
      obtain rfl : [] = entered := Except.ok.inj parsed
      have warned := warnings_answer sound alone requests (.discover callGraph given)
      rw [returned, inquiries, classified_roles, classes, List.append_nil, freshNames_append,
        freshNames_of_nodup _ (NameSet.nodup_toList _)] at warned
      exact warned

theorem degraded_warnings_discover :
    let s := ofHierarchy ⟨[]⟩ some true Catalog.builtin
    let requests : List Request := [.role "c.D", .isApplication "e.F", .entryMethod none,
      .filter (.list [.text "<g.H: void f()>", .nat 1, .text "<i.J: void f()>"])]
    let callGraph := Value.record [("nodes", .list [
      .record [("class", .text "y.Z"), ("method", .text "<c.D: void onStart()>")],
      .record [("method", .text "<w.X: void onStart()>")],
      .record [("class", .text "a.B"), ("method", .text "f")]])]
    s.classifier.oracle = none ∧
      (s.after requests {}).warnings = [Text.of "c.D", Text.of "g.H"].map assumption ∧
      ∃ r final, (s.answer (.discover callGraph none)).run.run (s.after requests {}) =
          (.ok (.report r), final) ∧ r.IsBare ∧
        final.warnings = [Text.of "c.D", Text.of "g.H", Text.of "w.X", Text.of "a.B",
          Text.of "y.Z"].map assumption := by
  intro s requests callGraph
  obtain ⟨-, -, -, warned, -, -, -, discovered⟩ := degraded_warnings s rfl requests
  have classes : classesOf (requests.flatMap s.inquiries) = [Text.of "c.D", Text.of "g.H"] := by
    decide +kernel
  rw [classes] at warned
  have computed : (Discovery.outcome s.classifier s.catalog callGraph none).toOption.isSome := by
    decide +kernel
  obtain ⟨r, found⟩ := Option.isSome_iff_exists.1 computed
  have sound : s.classifier.IsOver s.hierarchy := Classifier.isOver_of_degraded rfl s.hierarchy
  have question : (Request.discover callGraph none).isMeter = false := rfl
  have answered := (answer_decides sound question _ (faithful_after sound requests)).1
  rw [outcome, Outcome.eq_ok_of_toOption found] at answered
  have last : ((s.answer (.discover callGraph none)).run.run (s.after requests {})).2.warnings =
      [Text.of "c.D", Text.of "g.H", Text.of "w.X", Text.of "a.B",
        Text.of "y.Z"].map assumption := by
    decide +kernel
  refine ⟨rfl, warned, ?_⟩
  cases ran : (s.answer (.discover callGraph none)).run.run (s.after requests {}) with
  | mk ended final =>
    rw [ran] at answered last
    cases answered
    exact ⟨r, final, rfl, (discovered callGraph none r final ran).1, last⟩

end Session

end DroidRoots
