import DroidRoots.Proofs.Lookups
import DroidRoots.Proofs.TextualCallGraphs

/-! Fields of a call graph that are null, and the same call graph without them. To leave them out
changes nothing in how a discovery ends, with one exception: a node without a class whose method is
null fails the discovery, while one that has neither a class nor a method is passed over. -/

namespace DroidRoots

namespace Value

def isNull : Value → Bool
  | .null => true
  | _ => false

def givesNull (names : List Text) (fields : List (Scalar × Value)) (key : Scalar) : Bool :=
  names.any fun name => key = .text name && (field? name fields).any isNull

def withoutNull (names : List Text) (fields : List (Scalar × Value)) : List (Scalar × Value) :=
  fields.filter fun e => !givesNull names fields e.1

variable {name : Text} {names : List Text} {fields : List (Scalar × Value)}

theorem givesNull_text (member : name ∈ names) :
    givesNull names fields (.text name) = (field? name fields).any isNull := by
  rw [givesNull, Bool.eq_iff_iff]
  simpa using fun _ => member

theorem field?_withoutNull (member : name ∈ names) :
    field? name (withoutNull names fields) = (field? name fields).filter (!isNull ·) := by
  rw [withoutNull, field?_filter (!givesNull names fields ·), givesNull_text member]
  cases field? name fields <;> simp [Option.filter]

end Value

namespace CallGraph

def optional : List Text := ["nodes", "edges", "method", "class", "caller", "callee"]

def prunedEntry : Value → Value
  | .object own => .object (Value.withoutNull optional own)
  | other => other

def prunedListing : Value → Value
  | .list entries => .list (entries.map prunedEntry)
  | other => other

def prunedFields (fields : List (Scalar × Value)) : List (Scalar × Value) :=
  (Value.withoutNull optional fields).map fun e => (e.1, prunedListing e.2)

def pruned : Value → Value
  | .object fields => .object (prunedFields fields)
  | other => other

variable {name : Text} {names : List Text} {fields : List (Scalar × Value)}

theorem isEntry_pruned {entry : Value} (named : isEntry true names entry)
    (known : names ⊆ optional) : isEntry false names (prunedEntry entry) := by
  cases entry with
  | object own =>
    refine List.all_eq_true.2 fun name member => ?_
    have naming := List.all_eq_true.1 named name member
    rw [Value.field?_withoutNull (known member)]
    cases found : Value.field? name own with
    | none => rfl
    | some value =>
      rw [found] at naming
      rcases isNaming_iff.1 naming with ⟨s, rfl⟩ | ⟨rfl, -⟩ <;> rfl
  | _ => cases named

theorem field?_prunedFields (member : name ∈ optional) :
    Value.field? name (prunedFields fields) =
      ((Value.field? name fields).filter (!Value.isNull ·)).map prunedListing := by
  rw [prunedFields, Value.field?_map, Value.field?_withoutNull member]

theorem isListing_prunedFields (listing : (Value.field? name fields).all (isListing true names))
    (member : name ∈ optional) (known : names ⊆ optional) :
    (Value.field? name (prunedFields fields)).all (isListing false names) := by
  rw [field?_prunedFields member]
  cases found : Value.field? name fields with
  | none => rfl
  | some value =>
    rw [found] at listing
    rcases isListing_iff.1 listing with ⟨entries, rfl, all⟩ | ⟨rfl, -⟩
    · refine List.all_eq_true.2 fun other pruned => ?_
      obtain ⟨entry, listed, rfl⟩ := List.mem_map.1 pruned
      exact isEntry_pruned (all entry listed) known
    · rfl

theorem isTextual_pruned {document : Value} (textual : isTextual true document) :
    isTextual false (pruned document) := by
  cases document with
  | object fields =>
    obtain ⟨nodes, edges⟩ := Bool.and_eq_true_iff.1 textual
    exact Bool.and_eq_true_iff.2
      ⟨isListing_prunedFields nodes (by simp [optional]) (by simp [optional]),
        isListing_prunedFields edges (by simp [optional]) (by simp [optional])⟩
  | _ => cases textual

theorem elementsUnder_prunedFields (listing : (Value.field? name fields).all (isListing true names))
    (member : name ∈ optional) :
    elementsUnder name (prunedFields fields) =
      (elementsUnder name fields).map (·.map prunedEntry) := by
  rw [elementsUnder, elementsUnder, Value.fieldD, Value.fieldD, field?_prunedFields member]
  cases found : Value.field? name fields with
  | none => rfl
  | some value =>
    rw [found] at listing
    rcases isListing_iff.1 listing with ⟨entries, rfl, -⟩ | ⟨rfl, -⟩
    · cases entries <;> rfl
    · rfl

end CallGraph

def Mention.filled : Mention → Mention
  | .vacant => .text []
  | other => other

namespace Mention

@[simp] theorem signature?_filled (mention : Mention) :
    mention.filled.signature? = mention.signature? := by
  cases mention <;> rfl

theorem texts_map_filled (mentions : List Mention) :
    texts (mentions.map filled) = texts mentions := by
  simp only [texts, List.mapM_map, Function.comp_def, signature?_filled]

theorem ofField_withoutNull {names : List Text} {own : List (Scalar × Value)}
    (named : CallGraph.isEntry true names (.object own)) {name : Text} (member : name ∈ names)
    (known : name ∈ CallGraph.optional) :
    ofField name (Value.withoutNull CallGraph.optional own) = (ofField name own).filled := by
  have naming := List.all_eq_true.1 named name member
  rw [ofField, ofField, Value.fieldD, Value.fieldD, Value.field?_withoutNull known]
  cases found : Value.field? name own with
  | none => rfl
  | some value =>
    rw [found] at naming
    rcases CallGraph.isNaming_iff.1 naming with ⟨s, rfl⟩ | ⟨rfl, -⟩ <;> rfl

end Mention

namespace CallGraph

def Node.filled (node : Node) : Node := { node with method := node.method.filled }

def Edge.filled (edge : Edge) : Edge := ⟨edge.caller.filled, edge.callee.filled⟩

def filled (g : CallGraph) : CallGraph where
  nodes := g.nodes.map (·.map Node.filled)
  edges := g.edges.map (·.map Edge.filled)

theorem Node.ofValue_pruned {entry : Value} (named : isEntry true ["method", "class"] entry) :
    ofValue (prunedEntry entry) = (ofValue entry).map filled := by
  cases entry with
  | object own =>
    have method : Mention.ofField "method" (Value.withoutNull optional own) =
        (Mention.ofField "method" own).filled :=
      Mention.ofField_withoutNull named (by simp) (by simp [optional])
    have declaring : Value.fieldD "class" (Value.withoutNull optional own) .null =
        Value.fieldD "class" own .null := by
      rw [Value.fieldD, Value.fieldD, Value.field?_withoutNull (by simp [optional])]
      cases found : Value.field? "class" own with
      | none => rfl
      | some value =>
        cases value with
        | scalar s => cases s <;> rfl
        | _ => rfl
    rw [prunedEntry, ofValue, declaring, method]
    rfl
  | _ => cases named

theorem Edge.ofValue_pruned {entry : Value} (named : isEntry true ["caller", "callee"] entry) :
    ofValue (prunedEntry entry) = (ofValue entry).map filled := by
  cases entry with
  | object own =>
    rw [prunedEntry, ofValue, Mention.ofField_withoutNull named (by simp) (by simp [optional]),
      Mention.ofField_withoutNull named (by simp) (by simp [optional])]
    rfl
  | _ => cases named

theorem candidates_filled (g : CallGraph) :
    g.filled.candidates = g.candidates.map Mention.filled := by
  simp only [candidates, filled, List.filterMap_map, List.map_filterMap]
  refine List.filterMap_congr fun node _ => ?_
  cases node <;> rfl

theorem ofValue_pruned {document : Value} (textual : isTextual true document) :
    ofValue (pruned document) = (ofValue document).map filled := by
  cases document with
  | object fields =>
    obtain ⟨nodesListed, edgesListed⟩ := Bool.and_eq_true_iff.1 textual
    obtain ⟨nodes, foundNodes⟩ := exists_elementsUnder nodesListed
    obtain ⟨edges, foundEdges⟩ := exists_elementsUnder edgesListed
    have nodesPruned := elementsUnder_prunedFields nodesListed (by simp [optional])
    have edgesPruned := elementsUnder_prunedFields edgesListed (by simp [optional])
    have eachNode : (nodes.map prunedEntry).map Node.ofValue =
        (nodes.map Node.ofValue).map (·.map Node.filled) := by
      simp only [List.map_map]
      refine List.map_congr_left fun entry member => Node.ofValue_pruned ?_
      exact isEntry_of_entry nodesListed ((mem_elementsUnder foundNodes).1 member)
    have eachEdge : (edges.map prunedEntry).map Edge.ofValue =
        (edges.map Edge.ofValue).map (·.map Edge.filled) := by
      simp only [List.map_map]
      refine List.map_congr_left fun entry member => Edge.ofValue_pruned ?_
      exact isEntry_of_entry edgesListed ((mem_elementsUnder foundEdges).1 member)
    rw [pruned, ofValue, ofValue, nodesPruned, edgesPruned, foundNodes, foundEdges]
    simp only [Except.map, bind, Except.bind, pure, Except.pure, eachNode, eachEdge]
    rfl
  | _ => cases textual

end CallGraph

namespace Discovery
variable {c : Classifier} {k : Catalog}

theorem canonical?_filled (mention : Mention) : canonical? mention.filled = canonical? mention := by
  rw [canonical?, canonical?, Mention.signature?_filled]

theorem graphOf_filled (g : CallGraph) : graphOf g.filled.edges = graphOf g.edges := by
  have known : g.filled.edges.filterMap id = (g.edges.filterMap id).map CallGraph.Edge.filled := by
    simp only [CallGraph.filled, List.filterMap_map, List.map_filterMap]
    rfl
  have arcs : arc? ∘ CallGraph.Edge.filled = arc? := by
    funext edge
    simp only [Function.comp, arc?, CallGraph.Edge.filled, canonical?_filled]
  rw [graphOf, graphOf, known, List.mapM_map, arcs]

def IsBare (node : CallGraph.Node) : Prop := node.declaring = none ∧ node.method = .vacant

theorem declaringOf_filled {node : CallGraph.Node} (named : ¬ IsBare node) :
    declaringOf node.filled = declaringOf node := by
  obtain ⟨method, declaring⟩ := node
  cases declaring with
  | some name => rfl
  | none =>
    cases method with
    | vacant => exact absurd ⟨rfl, rfl⟩ named
    | _ => rfl

theorem declaringOf_of_isBare {node : CallGraph.Node} (bare : IsBare node) :
    declaringOf node = .error .expectedText := by
  rw [declaringOf, bare.1, bare.2]
  rfl

theorem nodes_filled (g : CallGraph) :
    g.filled.nodes.filterMap id = (g.nodes.filterMap id).map CallGraph.Node.filled := by
  simp only [CallGraph.filled, List.filterMap_map, List.map_filterMap]
  rfl

theorem declaringClasses_filled {g : CallGraph}
    (named : ∀ node, some node ∈ g.nodes → ¬ IsBare node) :
    declaringClasses g.filled.nodes = declaringClasses g.nodes := by
  have each : ∀ node ∈ g.nodes.filterMap id,
      (declaringOf ∘ CallGraph.Node.filled) node = declaringOf node :=
    fun node member => declaringOf_filled (named node (by simpa using member))
  rw [declaringClasses, declaringClasses, nodes_filled, List.mapM_map, Outcome.mapM_congr each]

theorem examined_filled {g : CallGraph} (named : ∀ node, some node ∈ g.nodes → ¬ IsBare node)
    (source : Source) {mentions others : List Mention}
    (same : Mention.texts others = Mention.texts mentions) :
    examined c k g.filled source others = examined c k g source mentions := by
  have report (selection : EntryPoint.Selection) (classes : List Text) (graph : Digraph) :
      reportOn c g.filled source selection classes graph =
        reportOn c g source selection classes graph := by
    simp only [reportOn, CallGraph.filled, List.length_map]
  simp only [examined, EntryPoint.selected, same, declaringClasses_filled named, graphOf_filled,
    report]

theorem outcome_pruned {callGraph : Value} (textual : CallGraph.isTextual true callGraph)
    (named : ∀ g, CallGraph.ofValue callGraph = .ok g → ∀ node, some node ∈ g.nodes → ¬ IsBare node)
    (given : Option Value) :
    outcome c k (CallGraph.pruned callGraph) given = outcome c k callGraph given := by
  obtain ⟨g, read, -⟩ := CallGraph.exists_of_isTextual textual
  have each := named g read
  have again : CallGraph.ofValue (CallGraph.pruned callGraph) = .ok g.filled := by
    rw [CallGraph.ofValue_pruned textual, read]
    rfl
  simp only [outcome, read, again, bind, Except.bind]
  cases given with
  | none =>
    have same : Mention.texts g.filled.candidates = Mention.texts g.candidates := by
      rw [CallGraph.candidates_filled, Mention.texts_map_filled]
    exact examined_filled each .callGraph same
  | some value =>
    simp only [candidatesOf]
    cases Mention.ofElements? value with
    | none => rfl
    | some mentions => exact examined_filled each .given rfl

def HasBareNode (document : Value) : Prop :=
  ∃ own, CallGraph.Entry "nodes" document (.object own) ∧
    Value.field? "method" own = some .null ∧ (Value.fieldD "class" own .null).isPresent = false

theorem hasBareNode_iff {callGraph : Value} (textual : CallGraph.isTextual true callGraph)
    {g : CallGraph} (read : CallGraph.ofValue callGraph = .ok g) :
    HasBareNode callGraph ↔ ∃ node, some node ∈ g.nodes ∧ IsBare node := by
  constructor
  · rintro ⟨own, entry, method, declaring⟩
    refine ⟨_, (CallGraph.mem_nodes read).2 ⟨own, entry, rfl⟩, ?_, ?_⟩
    · simp [declaring]
    · simp only [Mention.ofField, Value.fieldD, method]
      rfl
  · rintro ⟨node, member, declaring, method⟩
    obtain ⟨own, entry, made⟩ := (CallGraph.mem_nodes read).1 member
    obtain rfl := Option.some.inj made
    have naming := List.all_eq_true.1 (CallGraph.isEntry_of_node textual entry) "method" (by simp)
    refine ⟨own, entry, ?_, by simpa using declaring⟩
    simp only [Mention.ofField, Value.fieldD] at method
    cases found : Value.field? "method" own with
    | none =>
      rw [found] at method
      cases method
    | some value =>
      rw [found] at naming method
      rcases CallGraph.isNaming_iff.1 naming with ⟨s, rfl⟩ | ⟨rfl, -⟩
      · cases method
      · rfl

theorem outcome_of_bare {callGraph : Value} (textual : CallGraph.isTextual true callGraph)
    (bare : HasBareNode callGraph) (given : Option (List Text)) :
    outcome c k callGraph (given.map .texts) = .error .expectedText := by
  obtain ⟨g, read, named⟩ := CallGraph.exists_of_isTextual textual
  obtain ⟨source, mentions, found, mentioned⟩ := exists_candidatesOf named given
  obtain ⟨selection, chosen⟩ := exists_selected (c := c) (k := k) mentioned
  obtain ⟨node, member, alone⟩ := (hasBareNode_iff textual read).1 bare
  have failed : declaringClasses g.nodes = .error .expectedText := by
    rw [declaringClasses]
    cases collected : (g.nodes.filterMap id).mapM declaringOf with
    | ok all =>
      obtain ⟨declared, own⟩ := Outcome.exists_of_mapM collected node (by simpa using member)
      rw [declaringOf_of_isBare alone] at own
      cases own
    | error fault =>
      obtain ⟨-, first, -, -, own, -⟩ := Outcome.mapM_error collected
      rw [fault_of_declaringOf own]
      rfl
  simp only [outcome, examined, read, found, chosen, failed, bind, Except.bind]

/-- In any state of a session, a discovery ends on a call graph as on the one without its null
fields, unless it has a node without a class whose method is null. The discovery then fails over
that null, and does not fail over it once it is left out. -/
theorem null_as_absent (s : Session) (sound : s.classifier.IsOver s.hierarchy) (callGraph : Value)
    (textual : CallGraph.isTextual true callGraph = true) (given : Option Value)
    (earlier later : List Session.Request) :
    let ended (document : Value) (requests : List Session.Request) :=
      ((run s.classifier s.catalog document given).run.run (s.after requests {})).1
    CallGraph.isTextual false (CallGraph.pruned callGraph) = true ∧
    (¬ HasBareNode callGraph →
      ended (CallGraph.pruned callGraph) later = ended callGraph earlier) ∧
    (HasBareNode callGraph → ∀ names : Option (List Text), given = names.map .texts →
      ended callGraph earlier = .error .expectedText ∧
      ended (CallGraph.pruned callGraph) later ≠ .error .expectedText) := by
  intro ended
  have decided (document : Value) (requests : List Session.Request) :
      ended document requests = outcome s.classifier s.catalog document given :=
    (run_decides sound s.catalog document given _ (Session.faithful_after sound requests)).1
  have pruned := CallGraph.isTextual_pruned textual
  refine ⟨pruned, fun named => ?_, fun bare names same => ⟨?_, fun failed => ?_⟩⟩
  · rw [decided, decided]
    refine outcome_pruned textual (fun g read node member alone => ?_) given
    exact named ((hasBareNode_iff textual read).2 ⟨node, member, alone⟩)
  · rw [decided, same]
    exact outcome_of_bare textual bare names
  · obtain ⟨chosen, exactly, report, last⟩ :=
      outcome_textual (c := s.classifier) (k := s.catalog) pruned names
    rw [decided, same, last] at failed
    cases entered : entryClasses chosen with
    | ok classes =>
      rw [entered] at failed
      cases failed
    | error fault =>
      obtain ⟨m, -, -, unread, -⟩ := fault_of_entryClasses exactly entered
      rw [entered, unread] at failed
      cases failed

theorem null_as_absent_named :
    let h : Hierarchy := ⟨[("a.B", .ofList ["android.app.Activity"])]⟩
    let s := Session.ofHierarchy h h.resolve false .builtin
    let node : Value := .record [("method", .null), ("class", .text "a.B")]
    let start : Value := .record [("method", .text "<a.B: void onStart()>"), ("class", .null)]
    let call : Value := .record [("caller", .null), ("callee", .text "<a.B: void f()>")]
    let callGraph := Value.record [("nodes", .list [node, start]), ("edges", .list [call])]
    s.classifier.IsOver s.hierarchy ∧ CallGraph.isTextual true callGraph = true ∧
      ¬ HasBareNode callGraph ∧
      CallGraph.pruned callGraph = .record [
        ("nodes", .list [.record [("class", .text "a.B")],
          .record [("method", .text "<a.B: void onStart()>")]]),
        ("edges", .list [.record [("callee", .text "<a.B: void f()>")]])] ∧
      ((run s.classifier .builtin (CallGraph.pruned callGraph) none).run.run
        (s.after [.role "a.B"] {})).1 =
          ((run s.classifier .builtin callGraph none).run.run {}).1 := by
  intro h s node start call callGraph
  have sound : s.classifier.IsOver s.hierarchy :=
    Session.isOver_ofHierarchy h h.resolve false .builtin
  have textual : CallGraph.isTextual true callGraph = true := by decide +kernel
  have named : ¬ HasBareNode callGraph := by
    have read : CallGraph.ofValue callGraph = .ok
        ⟨[some ⟨.vacant, some "a.B"⟩, some ⟨.text "<a.B: void onStart()>", none⟩],
          [some ⟨.vacant, .text "<a.B: void f()>"⟩]⟩ := rfl
    rw [hasBareNode_iff textual read]
    simp [IsBare]
  obtain ⟨-, same, -⟩ := null_as_absent s sound callGraph textual none [] [.role "a.B"]
  exact ⟨sound, textual, named, rfl, same named⟩

/-- The method of the only node is null, and then it is left out. -/
theorem null_method_fatal :
    let callGraph := Value.record [("nodes", .list [.record [("method", .null)]])]
    let c := (Session.ofHierarchy ⟨[]⟩ (Hierarchy.resolve ⟨[]⟩) false .builtin).classifier
    CallGraph.isTextual true callGraph = true ∧
      CallGraph.pruned callGraph = .record [("nodes", .list [.record []])] ∧
      ((run c .builtin callGraph none).run.run {}).1 = .error .expectedText ∧
      ((run c .builtin (CallGraph.pruned callGraph) none).run.run {}).1 =
        .ok ⟨.empty, [], .empty, 1, 0, 0, .callGraph⟩ := by
  intro callGraph c
  refine ⟨by decide +kernel, rfl, by decide +kernel, by decide +kernel⟩

end Discovery

end DroidRoots
