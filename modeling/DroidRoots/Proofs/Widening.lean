import DroidRoots.Proofs.DiscoveryReport
import DroidRoots.Proofs.SearchRounds
import DroidRoots.Proofs.SuppliedCatalogs

/-! Discovery on more. What a report says can be told from the document alone: each of its parts is
what a relation on the document holds of. All of these relations grow with the nodes, the edges and
the tables, and so do reports. -/

namespace DroidRoots

def Catalog.Within (k wide : Catalog) : Prop :=
  ∀ role e, e ∈ k.methodsFor role → e ∈ wide.methodsFor role

theorem Catalog.builtin_within_of_extends {path : Text} {d : Document} {k : Catalog}
    (made : ofDocument path d = .ok k) (extended : extendsBuiltin d = true) : builtin.Within k := by
  obtain ⟨version, tables, built, rows⟩ := exists_tables_of_ofDocument made
  intro role e member
  obtain ⟨given, own, form⟩ := (mem_methodsFor build_builtin).1 member
  rw [rows_frameworkTables] at own
  exact (mem_methodsFor built).2 ⟨given, (rows role given).2 (.inl ⟨extended, own⟩), form⟩

namespace CallGraph

structure Within (document wide : Value) : Prop where
  nodes : ∀ entry, Entry "nodes" document entry → Entry "nodes" wide entry
  edges : ∀ entry, Entry "edges" document entry → Entry "edges" wide entry

theorem entry_list {name : Text} {fields : List (Scalar × Value)} {elements : List Value}
    (found : Value.field? name fields = some (.list elements)) {entry : Value} :
    Entry name (.object fields) entry ↔ entry ∈ elements := by
  simp [Entry, found, Value.elements?]

end CallGraph

namespace Discovery
variable {c : Classifier} {k k' : Catalog} {callGraph wide : Value} {given : Option Value}

structure Describes (c : Classifier) (k : Catalog) (callGraph : Value) (given : Option Value)
    (r : Report) : Prop where
  entryPoints : ∀ e, e ∈ r.entryPoints ↔ ∃ m, Selects c k callGraph given m ∧ e = m.signature
  components : ∀ name role, (name, role) ∈ r.components ↔
    Concerns c k callGraph given name ∧ role = c.roleIn name ∧ role ≠ .plain
  reachable : ∀ name, name ∈ r.reachable ↔
    ∃ root ∈ r.entryPoints, Relation.ReflTransGen (Joins callGraph) root name

theorem describes_of_outcome {r : Report} (ended : outcome c k callGraph given = .ok r) :
    Describes c k callGraph given r := by
  obtain ⟨g, source, mentions, selection, declared, entered, graph, read, found, chosen, collected,
    parsed, built, rfl⟩ := exists_of_outcome ended
  have exactly (e : Text) := mem_selected (e := e) read found chosen
  refine ⟨exactly, fun name role => ?_, fun name => ?_⟩
  · have concerned : name ∈ declared ++ entered ↔ Concerns c k callGraph given name := by
      rw [List.mem_append, mem_declaringClasses read collected, mem_entryClasses exactly parsed,
        Concerns]
    exact mem_componentsOf.trans (and_congr_left fun _ => concerned)
  · have calls : (fun a b => (a, b) ∈ graph.arcs) = Joins callGraph := by
      funext a b
      exact propext (mem_arcs read built)
    have reached : name ∈ graph.reachable selection.chosen.toList ↔
        ∃ root ∈ selection.chosen.toList, graph.Leads root name :=
      Digraph.mem_reachable
    rw [Digraph.Leads, calls] at reached
    exact reached

theorem Candidate.mono (within : CallGraph.Within callGraph wide) {m : Method}
    (candidate : Candidate callGraph given m) : Candidate wide given m := by
  cases given with
  | none =>
    obtain ⟨fields, entry, read⟩ := candidate
    exact ⟨fields, within.nodes _ entry, read⟩
  | some value => exact candidate

theorem Selects.mono (within : CallGraph.Within callGraph wide) (tables : k.Within k') {m : Method}
    (selected : Selects c k callGraph given m) : Selects c k' wide given m := by
  obtain ⟨candidate, driven, tabled⟩ := selected
  exact ⟨candidate.mono within, driven, tables _ _ tabled⟩

theorem Concerns.mono (within : CallGraph.Within callGraph wide) (tables : k.Within k')
    {name : Text} (concerned : Concerns c k callGraph given name) :
    Concerns c k' wide given name := by
  cases concerned with
  | inl declared =>
    obtain ⟨fields, entry, declares⟩ := declared
    exact .inl ⟨fields, within.nodes _ entry, declares⟩
  | inr entered =>
    obtain ⟨m, selected, own⟩ := entered
    exact .inr ⟨m, selected.mono within tables, own⟩

theorem Joins.mono (within : CallGraph.Within callGraph wide) {a b : Text}
    (call : Joins callGraph a b) : Joins wide a b := by
  obtain ⟨fields, m, n, entry, ends⟩ := call
  exact ⟨fields, m, n, within.edges _ entry, ends⟩

namespace Describes
variable {r r' : Report}

theorem entryPoints_mono (small : Describes c k callGraph given r)
    (large : Describes c k' wide given r') (within : CallGraph.Within callGraph wide)
    (tables : k.Within k') : ∀ e ∈ r.entryPoints, e ∈ r'.entryPoints := by
  intro e member
  obtain ⟨m, selected, printed⟩ := (small.entryPoints e).1 member
  exact (large.entryPoints e).2 ⟨m, selected.mono within tables, printed⟩

theorem components_mono (small : Describes c k callGraph given r)
    (large : Describes c k' wide given r') (within : CallGraph.Within callGraph wide)
    (tables : k.Within k') : ∀ entry ∈ r.components, entry ∈ r'.components := by
  intro (name, role) member
  obtain ⟨concerned, part⟩ := (small.components name role).1 member
  exact (large.components name role).2 ⟨concerned.mono within tables, part⟩

theorem role_unique (small : Describes c k callGraph given r) (large : Describes c k' wide given r')
    {name : Text} {role role' : Role} (own : (name, role) ∈ r.components)
    (other : (name, role') ∈ r'.components) : role = role' := by
  obtain ⟨-, first, -⟩ := (small.components name role).1 own
  obtain ⟨-, second, -⟩ := (large.components name role').1 other
  rw [first, second]

theorem reachable_mono (small : Describes c k callGraph given r)
    (large : Describes c k' wide given r') (within : CallGraph.Within callGraph wide)
    (tables : k.Within k') : ∀ name ∈ r.reachable, name ∈ r'.reachable := by
  intro name member
  obtain ⟨root, entry, path⟩ := (small.reachable name).1 member
  have more := small.entryPoints_mono large within tables root entry
  refine (large.reachable name).2 ⟨root, more, ?_⟩
  exact Relation.ReflTransGen.mono (fun _ _ => Joins.mono within) _ _ path

end Describes

end Discovery

namespace Session

def consulted (h : Hierarchy) (c : Classifier) (requests : List (Catalog × Request))
    (start : State) : State :=
  requests.foldl (fun state asked => ((answer ⟨h, c, asked.1⟩ asked.2).run.run state).2) start

theorem consulted_faithful {h : Hierarchy} {c : Classifier} (sound : c.IsOver h)
    (requests : List (Catalog × Request)) {start : State} (right : start.Faithful h c) :
    (consulted h c requests start).Faithful h c := by
  induction requests generalizing start with
  | nil => exact right
  | cons asked rest ih =>
    exact ih ((answer_steps (s := ⟨h, c, asked.1⟩) sound asked.2 right).faithful right)

end Session

namespace Discovery

/-- If all nodes and edges of one call graph occur in another and each table of one catalog is
contained in that of another, then what is reported of the first call graph with the first catalog
is reported of the second with the second: every entry point, every component with the same role,
and every reachable method, whatever the classifier was asked before. The framework's own tables
are contained in those of every file that extends them. -/
theorem report_monotone :
    (∀ (h : Hierarchy) (c : Classifier) (k k' : Catalog) (callGraph wide : Value)
      (given : Option Value) (earlier later : List (Catalog × Session.Request)) (r r' : Report),
      c.IsOver h → k.Within k' → CallGraph.Within callGraph wide →
      ((run c k callGraph given).run.run (Session.consulted h c earlier {})).1 = .ok r →
      ((run c k' wide given).run.run (Session.consulted h c later {})).1 = .ok r' →
      (∀ e ∈ r.entryPoints.toList, e ∈ r'.entryPoints.toList) ∧
      (∀ entry ∈ r.components, entry ∈ r'.components) ∧
      (∀ name role role', (name, role) ∈ r.components → (name, role') ∈ r'.components →
        role = role') ∧
      ∀ name ∈ r.reachable.toList, name ∈ r'.reachable.toList) ∧
    ∀ (files : FileTree) (name : Text) (d : Document) (k : Catalog),
      Catalog.documentAt files name = .ok d → Catalog.extendsBuiltin d = true →
      Catalog.load files name = .ok k → Catalog.builtin.Within k := by
  constructor
  · intro h c k k' callGraph wide given earlier later r r' sound tables within first second
    have fresh := Session.faithful_start h c
    have before := Session.consulted_faithful sound earlier fresh
    have after := Session.consulted_faithful sound later fresh
    rw [(run_decides sound k callGraph given _ before).1] at first
    rw [(run_decides sound k' wide given _ after).1] at second
    have small := describes_of_outcome first
    have large := describes_of_outcome second
    exact ⟨small.entryPoints_mono large within tables, small.components_mono large within tables,
      fun _ _ _ => small.role_unique large, small.reachable_mono large within tables⟩
  · intro files name d k held extended loaded
    rw [Catalog.load_eq, held] at loaded
    exact Catalog.builtin_within_of_extends loaded extended

theorem report_monotone_callback :
    let c : Classifier := {
      oracle := some (.relation fun child _ => child = Text.of "a.B")
      rules := [(.activity, "android.app.Activity")]
      application := none }
    let k : Catalog := ⟨"one", [(.activity, .ofList ["void onStart()"])]⟩
    let k' : Catalog := ⟨"two", [(.activity, .ofList ["void onStart()", "void onStop()"])]⟩
    let call (caller callee : Text) : Value :=
      .record [("caller", .text caller), ("callee", .text callee)]
    let nodes : List Value := [.record [("method", .text "<a.B: void onStart()>")]]
    let edges : List Value := [call "<a.B: void onStart()>" "<c.D: void f()>"]
    let more : List Value := [.record [("method", .text "<a.B: void onStop()>")]]
    let calls : List Value := [call "<c.D: void f()>" "<a.B: void onStop()>"]
    let callGraph := Value.record [("nodes", .list nodes), ("edges", .list edges)]
    let wide := Value.record [("nodes", .list (nodes ++ more)), ("edges", .list (edges ++ calls))]
    let files : FileTree := ⟨[(⟨.above 0, ["c.json"]⟩, .file (("\x7b\"version\": 1, " ++
      "\"extend_defaults\": 1, \"roles\": \x7b\"Service\": []\x7d\x7d").toUTF8))]⟩
    c.IsOver ⟨[]⟩ ∧ k.Within k' ∧ CallGraph.Within callGraph wide ∧
      (∃ r r', ((run c k callGraph none).run.run {}).1 = .ok r ∧
        ((run c k' wide none).run.run
          (Session.consulted ⟨[]⟩ c [(k, .discover callGraph none)] {})).1 = .ok r' ∧
        r.reachable.toList = [Text.of "<a.B: void onStart()>", Text.of "<c.D: void f()>"] ∧
        (∀ e ∈ r.entryPoints.toList, e ∈ r'.entryPoints.toList) ∧
        (∀ name ∈ r.reachable.toList, name ∈ r'.reachable.toList)) ∧
      ∃ loaded, Catalog.load files "c.json" = .ok loaded ∧ Catalog.builtin.Within loaded := by
  intro c k k' call nodes edges more calls callGraph wide files
  have sound : c.IsOver ⟨[]⟩ := Classifier.isOver_of_relation rfl ⟨[]⟩
  have tables : k.Within k' := by
    have every : ∀ role ∈ Role.all, ∀ e ∈ (k.methodsFor role).toList, e ∈ k'.methodsFor role := by
      decide +kernel
    exact fun role e member => every role (Role.mem_all role) e member
  have within : CallGraph.Within callGraph wide := {
    nodes := fun entry member =>
      (CallGraph.entry_list rfl).2 (List.mem_append_left _ ((CallGraph.entry_list rfl).1 member))
    edges := fun entry member =>
      (CallGraph.entry_list rfl).2 (List.mem_append_left _ ((CallGraph.entry_list rfl).1 member)) }
  have computed : ((run c k callGraph none).run.run {}).1.toOption.map (·.reachable.toList) =
      some [Text.of "<a.B: void onStart()>", Text.of "<c.D: void f()>"] := by
    decide +kernel
  have widened : ((run c k' wide none).run.run
      (Session.consulted ⟨[]⟩ c [(k, .discover callGraph none)] {})).1.toOption.isSome := by
    decide +kernel
  have extended : (Catalog.documentAt files "c.json").toOption.map Catalog.extendsBuiltin =
      some true := by
    decide +kernel
  have catalog : (Catalog.load files "c.json").toOption.isSome := by decide +kernel
  obtain ⟨r, found, reached⟩ := Option.map_eq_some_iff.1 computed
  obtain ⟨r', foundWide⟩ := Option.isSome_iff_exists.1 widened
  obtain ⟨d, held, asked⟩ := Option.map_eq_some_iff.1 extended
  obtain ⟨loaded, read⟩ := Option.isSome_iff_exists.1 catalog
  have returned := Outcome.eq_ok_of_toOption found
  have returnedWide := Outcome.eq_ok_of_toOption foundWide
  have given := Outcome.eq_ok_of_toOption held
  have made := Outcome.eq_ok_of_toOption read
  obtain ⟨grown, contained⟩ := report_monotone
  obtain ⟨entries, -, -, names⟩ := grown ⟨[]⟩ c k k' callGraph wide none [] _ r r' sound tables
    within returned returnedWide
  exact ⟨sound, tables, within, ⟨r, r', returned, returnedWide, reached, entries, names⟩, loaded,
    made, contained files "c.json" d loaded given asked made⟩

end Discovery

end DroidRoots
