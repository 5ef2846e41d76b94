import DroidRoots.Proofs.Inquiries
import DroidRoots.Proofs.RunOutcomes

/-! The spans of a run. What is done inside a span, classes asked about and notices written, leaves
no trace beside it. So the spans of a run depend only on how far it gets: the whole run is recorded
however it ends, and discovery as soon as the call graph can be counted. -/

namespace DroidRoots

structure Trace where
  context : Option RunContext
  current : Option Text
  spans : List Span

def State.trace (s : State) : Trace where
  context := s.context
  current := s.current
  spans := s.spans

def Quiet {α : Type} (x : StateM State α) : Prop := ∀ s, (x.run s).2.trace = s.trace

/-- A computation that records these spans, by the context and the span that it starts in. -/
def Adds {α : Type} (x : StateM State α)
    (made : Option RunContext → Option Text → List Span) : Prop :=
  ∀ s, (x.run s).2.trace = { s.trace with spans := s.spans ++ made s.context s.current }

variable {α β : Type}

namespace Quiet

protected theorem pure (a : α) : Quiet (pure a) := fun _ => rfl

protected theorem bind {x : StateM State α} {f : α → StateM State β} (first : Quiet x)
    (next : ∀ a, Quiet (f a)) : Quiet (x >>= f) := by
  intro s
  rw [Analysis.state_bind_run, next, first]

protected theorem mapM {f : α → StateM State β} (each : ∀ a, Quiet (f a)) (xs : List α) :
    Quiet (xs.mapM f) := by
  induction xs with
  | nil => exact .pure []
  | cons a rest ih =>
    rw [List.mapM_cons]
    exact (each a).bind fun _ => ih.bind fun _ => .pure _

theorem note (notice : Notice) : Quiet (Analysis.note notice) := fun _ => rfl

theorem ofExcept (outcome : Except Fault α) : Quiet (Analysis.ofExcept outcome).run := by
  cases outcome with
  | ok a => exact .pure (Except.ok a)
  | error fault => exact .pure (Except.error fault)

theorem lift {x : StateM State α} (quiet : Quiet x) : Quiet (liftM x : Analysis α).run := quiet

theorem andThen {x : Analysis α} {f : α → Analysis β} (first : Quiet x.run)
    (next : ∀ a, Quiet (f a).run) : Quiet (x >>= f).run := by
  rw [ExceptT.run_bind]
  refine first.bind fun outcome => ?_
  cases outcome with
  | ok a => exact next a
  | error fault => exact .pure (Except.error fault)

end Quiet

namespace Classifier

theorem ask_quiet (oracle : Oracle) (child parent : Text) : Quiet (ask oracle child parent) :=
  fun _ => rfl

theorem firstRole_quiet (oracle : Oracle) (name : Text) (rules : List (Role × Text)) :
    Quiet (firstRole oracle name rules) := by
  induction rules with
  | nil => exact .pure Role.plain
  | cons rule rest ih =>
    rw [firstRole]
    refine (ask_quiet oracle name rule.2).bind fun applies => ?_
    cases applies with
    | true => exact .pure rule.1
    | false => exact ih

theorem freshRole_quiet (c : Classifier) (name : Text) : Quiet (c.freshRole name) := by
  rw [freshRole]
  cases c.oracle with
  | none => exact (Quiet.note (.assumedPlain name)).bind fun _ => .pure _
  | some oracle => exact firstRole_quiet oracle name c.rules

theorem roleOf_quiet (c : Classifier) (name : Text) : Quiet (c.roleOf name) := by
  intro s
  cases known : Assoc.get? name s.roles with
  | some role => rw [roleOf_run_known known]
  | none =>
    rw [roleOf_run_new known]
    exact freshRole_quiet c name s

theorem classify_quiet (c : Classifier) (names : List Text) : Quiet (c.classify names) :=
  .mapM (fun name => (roleOf_quiet c name).bind fun _ => .pure _) _

end Classifier

variable {c : Classifier} {k : Catalog}

theorem EntryPoint.select_quiet (found : Selection) (mentions : List Mention) :
    Quiet (select c k found mentions).run := by
  induction mentions generalizing found with
  | nil => exact .pure (Except.ok found)
  | cons mention rest ih =>
    rw [select]
    refine .andThen (.ofExcept mention.signature?) fun signature? => ?_
    cases signature? with
    | none => exact ih found
    | some signature =>
      cases parsed : Method.parse signature with
      | error fault =>
        simp only [parsed]
        exact ih _
      | ok m =>
        simp only [parsed]
        have asked : Quiet (isEntryPoint c k m) :=
          (Classifier.roleOf_quiet c m.declaring).bind fun _ => .pure _
        refine .andThen (.lift asked) fun entry => ?_
        cases entry with
        | true => exact ih _
        | false => exact ih found

theorem Discovery.examine_quiet (g : CallGraph) (source : Source) (mentions : List Mention) :
    Quiet (examine c k g source mentions).run := by
  refine .andThen (EntryPoint.select_quiet _ mentions) fun selection => ?_
  refine .andThen (.ofExcept (declaringClasses g.nodes)) fun declared => ?_
  refine .andThen (.ofExcept (entryClasses selection.chosen)) fun entered => ?_
  refine .andThen (.lift (Classifier.classify_quiet c _)) fun roles => ?_
  exact .andThen (.ofExcept (graphOf g.edges)) fun graph => .pure _

namespace Adds
variable {x : Analysis α} {f : α → Analysis β}
  {made : Option RunContext → Option Text → List Span}

theorem of_quiet {y : StateM State α} (quiet : Quiet y) : Adds y fun _ _ => [] := by
  intro s
  rw [quiet, List.append_nil]
  rfl

theorem andThen (first : Adds x.run made) (next : ∀ a, Quiet (f a).run) :
    Adds (x >>= f).run made := by
  intro s
  rw [ExceptT.run_bind, Analysis.state_bind_run]
  cases (x.run.run s).1 with
  | ok a => rw [next, first]
  | error fault => exact first s

theorem after {outcome : Except Fault α} (made : α → Option RunContext → Option Text → List Span)
    (value : ∀ s, (x.run.run s).1 = outcome) (quiet : Quiet x.run)
    (next : ∀ a, Adds (f a).run (made a)) :
    Adds (x >>= f).run fun context current => listFrom outcome fun a => made a context current := by
  intro s
  rw [ExceptT.run_bind, Analysis.state_bind_run, value]
  cases outcome with
  | ok a =>
    have unmoved := quiet s
    have before : (x.run.run s).2.spans = s.spans := congrArg Trace.spans unmoved
    have within : (x.run.run s).2.context = s.context := congrArg Trace.context unmoved
    have inside : (x.run.run s).2.current = s.current := congrArg Trace.current unmoved
    rw [next, unmoved, before, within, inside]
    rfl
  | error fault => exact of_quiet quiet s

theorem ofExcept {outcome : Except Fault α}
    {made : α → Option RunContext → Option Text → List Span}
    (next : ∀ a, Adds (f a).run (made a)) :
    Adds (Analysis.ofExcept outcome >>= f).run fun context current =>
      listFrom outcome fun a => made a context current := by
  refine after made (fun s => ?_) (.ofExcept outcome) next
  cases outcome <;> rfl

theorem inSpan (made : Option RunContext → Option Text → List Span) {name : Text}
    {attributes : List (Text × Value)} (inner : Adds x.run made) :
    Adds (Analysis.inSpan name attributes x).run fun context current =>
      made context (some name) ++
        [{ name, parent := current, attributes := Span.attributesOf context attributes }] := by
  intro s
  have within := inner { s with current := some name }
  have spans := congrArg Trace.spans within
  have context := congrArg Trace.context within
  have ended : ((Analysis.inSpan name attributes x).run.run s).2.trace =
      { context := (x.run.run { s with current := some name }).2.context
        current := s.current
        spans := (x.run.run { s with current := some name }).2.spans ++
          [{ name, parent := s.current,
             attributes := Span.attributesOf s.context attributes }] } := rfl
  simp only [State.trace] at spans context
  rw [ended, spans, context, List.append_assoc]
  rfl

end Adds

namespace Span

theorem identities_of_run {analysis run : Text} (identified : run ≠ []) :
    identities (some { analysis, run }) =
      (if analysis = [] then [] else [(Text.of "analysis_id", .text analysis)]) ++
        [(Text.of "run_id", .text run)] := by
  by_cases nameless : analysis = [] <;> simp [identities, nameless, identified]

end Span

def Value.extent? : Value → Option Nat
  | .list items => some items.length
  | .object entries => some entries.length
  | .set members => some members.length
  | .pair _ _ => some 2
  | .text s => some s.length
  | .scalar (.bytes b) => some b.length
  | .scalar _ | .knot _ => none

theorem Value.map_length_elements? (v : Value) : v.elements?.map List.length = v.extent? := by
  cases v with
  | scalar s => cases s <;> simp [elements?, extent?]
  | _ => simp [elements?, extent?]

namespace CallGraph

def extentUnder? (name : Text) (fields : List (Scalar × Value)) : Option Nat :=
  match Value.field? name fields with
  | none => some 0
  | some value => if value.isPresent then value.extent? else some 0

theorem map_length_elementsUnder (name : Text) (fields : List (Scalar × Value)) :
    (elementsUnder name fields).toOption.map List.length = extentUnder? name fields := by
  rw [elementsUnder, extentUnder?, Value.fieldD]
  cases Value.field? name fields with
  | none => rfl
  | some value =>
    simp only [Option.getD_some, ← Value.map_length_elements?]
    cases value.isPresent with
    | false => rfl
    | true => cases value.elements? <;> rfl

theorem exists_ofValue_iff {v : Value} {nodes edges : Nat} :
    (∃ g, ofValue v = .ok g ∧ g.nodes.length = nodes ∧ g.edges.length = edges) ↔
      ∃ fields, v = .object fields ∧ extentUnder? "nodes" fields = some nodes ∧
        extentUnder? "edges" fields = some edges := by
  simp only [← map_length_elementsUnder, Option.map_eq_some_iff]
  constructor
  · rintro ⟨g, read, rfl, rfl⟩
    cases v with
    | object fields =>
      obtain ⟨first, given, read⟩ := Outcome.bind_ok read
      obtain ⟨second, listed, read⟩ := Outcome.bind_ok read
      obtain rfl := Except.ok.inj read
      refine ⟨fields, rfl, ?_⟩
      rw [given, listed]
      exact ⟨⟨first, rfl, by simp⟩, second, rfl, by simp⟩
    | _ => cases read
  · rintro ⟨fields, rfl, ⟨first, given, rfl⟩, second, listed, rfl⟩
    refine ⟨⟨first.map Node.ofValue, second.map Edge.ofValue⟩, ?_, by simp, by simp⟩
    rw [ofValue, Outcome.eq_ok_of_toOption given, Outcome.eq_ok_of_toOption listed]
    rfl

end CallGraph

namespace Discovery

def spanOf (context : Option RunContext) (parent : Option Text) (g : CallGraph) : Span where
  name := "phase0.entrypoints"
  parent := parent
  attributes := Span.attributesOf context
    [("node_count", .nat g.nodes.length), ("edge_count", .nat g.edges.length)]

theorem run_adds (callGraph : Value) (given : Option Value) :
    Adds (run c k callGraph given).run fun context current =>
      listFrom (CallGraph.ofValue callGraph) fun g => [spanOf context current g] := by
  refine Adds.ofExcept fun g => ?_
  have examined : Quiet (Analysis.ofExcept (candidatesOf g given) >>= fun chosen =>
      examine c k g chosen.1 chosen.2).run :=
    .andThen (.ofExcept _) fun chosen => examine_quiet g chosen.1 chosen.2
  refine Adds.andThen (Adds.inSpan _ (.of_quiet examined)) fun report => ?_
  by_cases skipped : report.unparsed ≠ 0
  · rw [if_pos skipped]
    exact .andThen (.lift (.note _)) fun _ => .pure _
  · rw [if_neg skipped]
    exact .pure _

theorem run_counts (callGraph : Value) (given : Option Value) :
    Ensures (run c k callGraph given) fun r => ∃ g, CallGraph.ofValue callGraph = .ok g ∧
      r.nodeCount = g.nodes.length ∧ r.edgeCount = g.edges.length := by
  refine Ensures.bind (.ofExcept (CallGraph.ofValue callGraph)) fun g read => ?_
  have examined : Ensures (Analysis.ofExcept (candidatesOf g given) >>= fun chosen =>
      examine c k g chosen.1 chosen.2) fun r =>
        r.nodeCount = g.nodes.length ∧ r.edgeCount = g.edges.length := by
    have any {γ : Type} (x : Analysis γ) : Ensures x fun _ => True := fun _ _ _ => trivial
    refine (any _).bind fun chosen _ => ?_
    refine (any _).bind fun selection _ => ?_
    refine (any _).bind fun declared _ => ?_
    refine (any _).bind fun entered _ => ?_
    refine Ensures.lift_bind fun roles => ?_
    exact (any _).bind fun graph _ => .pure ⟨rfl, rfl⟩
  refine Ensures.bind (.inSpan examined) fun r counted => ?_
  by_cases skipped : r.unparsed ≠ 0
  · rw [if_pos skipped]
    exact Ensures.lift_bind fun _ => .pure ⟨g, read, counted⟩
  · rw [if_neg skipped]
    exact .pure ⟨g, read, counted⟩

end Discovery

namespace Hierarchy

theorem load_value (files : FileTree) (name : Text) (s : State) :
    ((load files name).run.run s).1 = loaded files name := by
  obtain ⟨notices, ended⟩ := load_run files name s
  rw [ended]

theorem load_quiet (files : FileTree) (name : Text) : Quiet (load files name).run := by
  intro s
  obtain ⟨notices, ended⟩ := load_run files name s
  rw [ended]
  rfl

end Hierarchy

namespace Run

def opened (files : FileTree) (settings : Document) (hierarchyFile graphFile : Text) :
    Except Fault CallGraph := do
  let _ ← Hierarchy.loaded files hierarchyFile
  let _ ← Catalog.ofSettings files settings
  let callGraph ← files.readJson (Path.ofText graphFile)
  CallGraph.ofValue callGraph

def spanOf (context : Option RunContext) (parent : Option Text) (hierarchyFile graphFile : Text) :
    Span where
  name := "lifecycle.run"
  parent := parent
  attributes := Span.attributesOf context
    [("class_hierarchy", .text hierarchyFile), ("callgraph", .text graphFile)]

theorem modify_bind_run {f : State → State} {x : Unit → Analysis α} {s : State} :
    ((modify f : Analysis Unit) >>= x).run.run s = (x ()).run.run (f s) := rfl

theorem report_trace (files : FileTree) (run : Text) (settings : Document)
    (hierarchyFile graphFile : Text) (s : State) :
    let context := some { analysis := (Path.ofText graphFile).stem, run }
    ((report files run settings hierarchyFile graphFile).run.run s).2.trace =
      { context
        current := s.current
        spans := s.spans ++
          ((listFrom (opened files settings hierarchyFile graphFile) fun g =>
            [Discovery.spanOf context (some "lifecycle.run") g]) ++
          [spanOf context s.current hierarchyFile graphFile]) } := by
  intro context
  rw [report]
  dsimp only
  rw [modify_bind_run]
  refine Adds.inSpan (fun context current =>
    listFrom (opened files settings hierarchyFile graphFile) fun g =>
      [Discovery.spanOf context current g]) ?_ { s with context }
  simp only [opened, listFrom_bind]
  refine Adds.after _ (Hierarchy.load_value files hierarchyFile)
    (Hierarchy.load_quiet files hierarchyFile) fun hierarchy => ?_
  refine Adds.ofExcept fun k => ?_
  have built (s : State) : ((liftM (classifier hierarchy) : Analysis Classifier).run.run s).1 =
      .ok (.ofHierarchy hierarchy) := by
    change Except.ok ((classifier hierarchy).run s).1 = _
    rw [classifier_run]
  have silent : Quiet (classifier hierarchy) := by
    intro s
    rw [classifier_run]
    rfl
  refine Adds.after (fun _ context current =>
    listFrom (files.readJson (Path.ofText graphFile)) fun callGraph =>
      listFrom (CallGraph.ofValue callGraph) fun g => [Discovery.spanOf context current g])
    built silent.lift fun c => ?_
  exact Adds.ofExcept fun callGraph =>
    (Discovery.run_adds callGraph none).andThen fun _ => .pure _

theorem report_counts (files : FileTree) (run : Text) (settings : Document)
    (hierarchyFile graphFile : Text) :
    Ensures (report files run settings hierarchyFile graphFile) fun r => ∃ g,
      opened files settings hierarchyFile graphFile = .ok g ∧
      r.report.nodeCount = g.nodes.length ∧ r.report.edgeCount = g.edges.length := by
  have loading : Ensures (Hierarchy.load files hierarchyFile) fun hierarchy =>
      Hierarchy.loaded files hierarchyFile = .ok hierarchy := by
    intro s hierarchy ended
    rwa [Hierarchy.load_value] at ended
  rw [report]
  dsimp only
  refine Ensures.lift_bind fun _ => .inSpan (loading.bind fun hierarchy loaded => ?_)
  refine Ensures.bind (.ofExcept _) fun k made => Ensures.lift_bind fun c => ?_
  refine Ensures.bind (.ofExcept _) fun callGraph read => ?_
  refine (Discovery.run_counts callGraph none).bind fun r counted => ?_
  obtain ⟨g, given, counted⟩ := counted
  refine .pure ⟨g, ?_, counted⟩
  rw [opened, loaded, made, read]
  exact given

theorem opened_iff {files : FileTree} {settings : Document} {hierarchyFile graphFile : Text}
    {nodes edges : Nat} :
    (∃ g, opened files settings hierarchyFile graphFile = .ok g ∧ g.nodes.length = nodes ∧
        g.edges.length = edges) ↔
      (∃ hierarchy, Hierarchy.loaded files hierarchyFile = .ok hierarchy) ∧
      (∃ k, Catalog.ofSettings files settings = .ok k) ∧
      ∃ fields, files.readJson (Path.ofText graphFile) = .ok (.object fields) ∧
        CallGraph.extentUnder? "nodes" fields = some nodes ∧
        CallGraph.extentUnder? "edges" fields = some edges := by
  constructor
  · rintro ⟨g, whole, sizes⟩
    obtain ⟨hierarchy, loaded, whole⟩ := Outcome.bind_ok whole
    obtain ⟨k, made, whole⟩ := Outcome.bind_ok whole
    obtain ⟨callGraph, read, counted⟩ := Outcome.bind_ok whole
    obtain ⟨fields, rfl, extents⟩ := CallGraph.exists_ofValue_iff.1 ⟨g, counted, sizes⟩
    exact ⟨⟨hierarchy, loaded⟩, ⟨k, made⟩, fields, read, extents⟩
  · rintro ⟨⟨hierarchy, loaded⟩, ⟨k, made⟩, fields, read, extents⟩
    obtain ⟨g, counted, sizes⟩ := CallGraph.exists_ofValue_iff.2 ⟨fields, rfl, extents⟩
    refine ⟨g, ?_, sizes⟩
    rw [opened, loaded, made, read]
    exact counted

/-- However a run ends, it has recorded itself, as a span without a parent, and before that at most
one span inside it, that of its discovery. This one is there if, and only if, the hierarchy and the
catalog could be had and the call graph is an object whose nodes and edges have a length, whatever
becomes of the discovery. Its counts are these lengths and those of the report, if there is one.
Both spans carry the run and, unless it is empty, the stem of the call graph's file. -/
theorem spans_exact (files : FileTree) (run : Text) (settings : Document)
    (hierarchyFile graphFile : Text) (s : State) (identified : run ≠ [])
    (outside : s.current = none) :
    let analysis := (Path.ofText graphFile).stem
    let identity : List (Text × Scalar) :=
      (if analysis = [] then [] else [(Text.of "analysis_id", .text analysis)]) ++
        [(Text.of "run_id", .text run)]
    let whole : Span := {
      name := "lifecycle.run"
      parent := none
      attributes := identity ++
        [(Text.of "class_hierarchy", .text hierarchyFile), (Text.of "callgraph", .text graphFile)] }
    let discovery (nodes edges : Nat) : Span := {
      name := "phase0.entrypoints"
      parent := some "lifecycle.run"
      attributes := identity ++
        [(Text.of "node_count", .int nodes), (Text.of "edge_count", .int edges)] }
    let ended := (report files run settings hierarchyFile graphFile).run.run s
    (ended.2.spans = s.spans ++ [whole] ∨
      ∃ nodes edges, ended.2.spans = s.spans ++ [discovery nodes edges, whole]) ∧
    (∀ nodes edges, ended.2.spans = s.spans ++ [discovery nodes edges, whole] ↔
      (∃ hierarchy, ((Hierarchy.load files hierarchyFile).run.run s).1 = .ok hierarchy) ∧
      (∃ k, Catalog.ofSettings files settings = .ok k) ∧
      ∃ fields, files.readJson (Path.ofText graphFile) = .ok (.object fields) ∧
        CallGraph.extentUnder? "nodes" fields = some nodes ∧
        CallGraph.extentUnder? "edges" fields = some edges) ∧
    ∀ r, ended.1 = .ok r →
      ended.2.spans = s.spans ++ [discovery r.report.nodeCount r.report.edgeCount, whole] := by
  intro analysis identity whole discovery ended
  have outer : spanOf (some { analysis, run }) s.current hierarchyFile graphFile = whole := by
    rw [spanOf, Span.attributesOf, Span.identities_of_run identified, outside]
    by_cases nameless : analysis = [] <;>
      simp +decide [whole, identity, nameless, Span.withAttributes, Span.set, Span.kept]
  have inner (g : CallGraph) : Discovery.spanOf (some { analysis, run }) (some "lifecycle.run") g =
      discovery g.nodes.length g.edges.length := by
    rw [Discovery.spanOf, Span.attributesOf, Span.identities_of_run identified]
    by_cases nameless : analysis = [] <;>
      simp +decide [discovery, identity, nameless, Span.withAttributes, Span.set, Span.kept,
        Value.nat]
  have traced : ended.2.spans = s.spans ++
      ((listFrom (opened files settings hierarchyFile graphFile) fun g =>
        [discovery g.nodes.length g.edges.length]) ++ [whole]) := by
    rw [← outer]
    simp only [← inner]
    exact congrArg Trace.spans (report_trace files run settings hierarchyFile graphFile s)
  have counted (nodes edges : Nat) : ended.2.spans = s.spans ++ [discovery nodes edges, whole] ↔
      ∃ g, opened files settings hierarchyFile graphFile = .ok g ∧ g.nodes.length = nodes ∧
        g.edges.length = edges := by
    rw [traced]
    cases opened files settings hierarchyFile graphFile with
    | ok g => simp [listFrom, discovery]
    | error fault => simp [listFrom]
  refine ⟨?_, fun nodes edges => ?_, fun r returned => ?_⟩
  · rw [traced]
    cases opened files settings hierarchyFile graphFile with
    | ok g => exact .inr ⟨_, _, rfl⟩
    | error fault => exact .inl rfl
  · rw [counted, opened_iff, Hierarchy.load_value]
  · obtain ⟨g, found, sizes⟩ :=
      report_counts files run settings hierarchyFile graphFile s r returned
    exact (counted _ _).2 ⟨g, found, sizes.1.symm, sizes.2.symm⟩

theorem spans_exact_failure :
    let files : FileTree := ⟨[(⟨.above 0, ["g.v1.json"]⟩, .file
      "\x7b\"nodes\": [7, \x7b\"method\": 1\x7d, null], \"edges\": \"ab\"\x7d".toUTF8)]⟩
    let settings := Settings.defaults.document
    let ended := (report files "r" settings "h.json" "g.v1.json").run.run {}
    Text.of "r" ≠ [] ∧ ({} : State).current = none ∧
      ended.1.map (fun _ => ()) = .error .expectedText ∧
      ended.2.spans = [
        { name := "phase0.entrypoints"
          parent := some "lifecycle.run"
          attributes := [(Text.of "analysis_id", .text "g.v1"), (Text.of "run_id", .text "r"),
            (Text.of "node_count", .int 3), (Text.of "edge_count", .int 2)] },
        { name := "lifecycle.run"
          parent := none
          attributes := [(Text.of "analysis_id", .text "g.v1"), (Text.of "run_id", .text "r"),
            (Text.of "class_hierarchy", .text "h.json"),
            (Text.of "callgraph", .text "g.v1.json")] }] := by
  intro files settings ended
  have named : Text.of "r" ≠ [] := by decide
  have hierarchy : ((Hierarchy.load files "h.json").run.run {}).1.toOption.isSome = true := by
    decide +kernel
  have counted : (files.readJson (Path.ofText "g.v1.json") >>= CallGraph.ofValue).toOption.map
      (fun g => (g.nodes.length, g.edges.length)) = some (3, 2) := by decide +kernel
  obtain ⟨hierarchy, loaded⟩ := Option.isSome_iff_exists.1 hierarchy
  obtain ⟨g, counted, sizes⟩ := Option.map_eq_some_iff.1 counted
  obtain ⟨callGraph, read, given⟩ := Outcome.bind_ok (Outcome.eq_ok_of_toOption counted)
  obtain ⟨fields, rfl, extents⟩ := CallGraph.exists_ofValue_iff.1
    ⟨g, given, congrArg Prod.fst sizes, congrArg Prod.snd sizes⟩
  obtain ⟨-, present, -⟩ := spans_exact files "r" settings "h.json" "g.v1.json" {} named rfl
  have recorded := (present 3 2).2
    ⟨⟨hierarchy, Outcome.eq_ok_of_toOption loaded⟩, ⟨.builtin, rfl⟩, fields, read, extents⟩
  exact ⟨named, rfl, by decide +kernel, recorded.trans (by decide +kernel)⟩

end Run

end DroidRoots
