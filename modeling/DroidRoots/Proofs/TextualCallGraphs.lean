import DroidRoots.Proofs.HierarchyListings
import DroidRoots.Proofs.Rearrangement
import DroidRoots.Proofs.Reselection
import DroidRoots.Proofs.RolePrecedence
import DroidRoots.Proofs.SubtypingOrder

/-! Call graphs in which all that is named is named by texts. Whatever the texts are, discovery
skips those that it cannot read. It fails in one case only: an entry point of a class without a
name is printed, and what is printed then cannot be read again. -/

namespace DroidRoots

namespace CallGraph

def isNaming (vacant : Bool) : Value → Bool
  | .text _ => true
  | .null => vacant
  | _ => false

def isEntry (vacant : Bool) (names : List Text) : Value → Bool
  | .object own => names.all fun name => (Value.field? name own).all (isNaming vacant)
  | _ => false

def isListing (vacant : Bool) (names : List Text) : Value → Bool
  | .list entries => entries.all (isEntry vacant names)
  | .null => vacant
  | _ => false

/-- Nodes and edges, if there are any, are lists of objects that name methods and classes by texts.
Null may be allowed in the place of all that can be left out. -/
def isTextual (vacant : Bool) : Value → Bool
  | .object fields =>
    (Value.field? "nodes" fields).all (isListing vacant ["method", "class"]) &&
      (Value.field? "edges" fields).all (isListing vacant ["caller", "callee"])
  | _ => false

variable {vacant : Bool} {names : List Text} {fields : List (Scalar × Value)} {name : Text}
  {value entry : Value}

theorem isNaming_iff : isNaming vacant value ↔
    (∃ s, value = .text s) ∨ value = .null ∧ vacant = true := by
  cases value with
  | scalar s => cases s <;> simp [isNaming]
  | _ => simp [isNaming]

theorem isListing_iff : isListing vacant names value ↔
    (∃ entries, value = .list entries ∧ ∀ entry ∈ entries, isEntry vacant names entry) ∨
      value = .null ∧ vacant = true := by
  cases value with
  | scalar s => cases s <;> simp [isListing]
  | _ => simp [isListing]

theorem exists_elementsUnder (listing : (Value.field? name fields).all (isListing vacant names)) :
    ∃ elements, elementsUnder name fields = .ok elements := by
  rw [elementsUnder, Value.fieldD]
  cases found : Value.field? name fields with
  | none => exact ⟨[], rfl⟩
  | some value =>
    rw [found, Option.all_some] at listing
    rcases isListing_iff.1 listing with ⟨entries, rfl, -⟩ | ⟨rfl, -⟩
    · cases entries <;> exact ⟨_, rfl⟩
    · exact ⟨[], rfl⟩

theorem isEntry_of_entry (listing : (Value.field? name fields).all (isListing vacant names))
    (member : Entry name (.object fields) entry) : isEntry vacant names entry := by
  obtain ⟨_, value, elements, same, found, collected, member⟩ := member
  cases same
  rw [found, Option.all_some] at listing
  rcases isListing_iff.1 listing with ⟨entries, rfl, all⟩ | ⟨rfl, -⟩
  · cases collected
    exact all entry member
  · cases collected

theorem isEntry_of_node {document : Value} (textual : isTextual vacant document)
    (member : Entry "nodes" document entry) : isEntry vacant ["method", "class"] entry := by
  cases document with
  | object fields => exact isEntry_of_entry (Bool.and_eq_true_iff.1 textual).1 member
  | _ => cases textual

theorem isEntry_of_edge {document : Value} (textual : isTextual vacant document)
    (member : Entry "edges" document entry) : isEntry vacant ["caller", "callee"] entry := by
  cases document with
  | object fields => exact isEntry_of_entry (Bool.and_eq_true_iff.1 textual).2 member
  | _ => cases textual

end CallGraph

def Mention.IsNamed (vacant : Bool) : Mention → Prop
  | .text _ => True
  | .vacant => vacant = true
  | .foreign => False

theorem Mention.isNamed_ofField {vacant : Bool} {names : List Text}
    {own : List (Scalar × Value)} (entry : CallGraph.isEntry vacant names (.object own))
    {name : Text} (member : name ∈ names) : (Mention.ofField name own).IsNamed vacant := by
  have naming := List.all_eq_true.1 entry name member
  rw [ofField, Value.fieldD]
  cases found : Value.field? name own with
  | none => trivial
  | some value =>
    rw [found] at naming
    rcases CallGraph.isNaming_iff.1 naming with ⟨s, rfl⟩ | ⟨rfl, allowed⟩
    · trivial
    · exact allowed

namespace CallGraph
variable {vacant : Bool}

structure IsNamed (vacant : Bool) (g : CallGraph) : Prop where
  nodes : ∀ node, some node ∈ g.nodes → node.method.IsNamed vacant
  edges : ∀ edge, some edge ∈ g.edges → edge.caller.IsNamed vacant ∧ edge.callee.IsNamed vacant

theorem exists_of_isTextual {document : Value} (textual : isTextual vacant document) :
    ∃ g, ofValue document = .ok g ∧ g.IsNamed vacant := by
  cases document with
  | object fields =>
    obtain ⟨nodesListed, edgesListed⟩ := Bool.and_eq_true_iff.1 textual
    obtain ⟨nodes, foundNodes⟩ := exists_elementsUnder nodesListed
    obtain ⟨edges, foundEdges⟩ := exists_elementsUnder edgesListed
    have read : ofValue (.object fields) =
        .ok { nodes := nodes.map Node.ofValue, edges := edges.map Edge.ofValue } := by
      rw [ofValue, foundNodes, foundEdges]
      rfl
    refine ⟨_, read, fun node member => ?_, fun edge member => ?_⟩
    · obtain ⟨own, entry, made⟩ := (mem_nodes read).1 member
      obtain rfl := Option.some.inj made
      exact Mention.isNamed_ofField (isEntry_of_node textual entry) (by simp)
    · obtain ⟨own, entry, made⟩ := (mem_edges read).1 member
      obtain rfl := Option.some.inj made
      have named := isEntry_of_edge textual entry
      exact ⟨Mention.isNamed_ofField named (by simp), Mention.isNamed_ofField named (by simp)⟩
  | _ => cases textual

theorem IsNamed.candidates {g : CallGraph} (named : g.IsNamed vacant) :
    ∀ mention ∈ g.candidates, mention.IsNamed vacant := by
  intro mention member
  obtain ⟨node, listed, found⟩ := List.mem_filterMap.1 member
  obtain ⟨known, rfl, rfl⟩ := Option.map_eq_some_iff.1 found
  exact named.nodes known listed

end CallGraph

theorem Mention.exists_texts {vacant : Bool} {mentions : List Mention}
    (named : ∀ mention ∈ mentions, mention.IsNamed vacant) :
    ∃ signatures, texts mentions = .ok signatures := by
  obtain ⟨all, collected⟩ : ∃ all, mentions.mapM Mention.signature? = .ok all := by
    refine Outcome.exists_mapM fun mention member => ?_
    have own := named mention member
    cases mention with
    | text s => exact ⟨_, rfl⟩
    | vacant => exact ⟨_, rfl⟩
    | foreign => cases own
  exact ⟨_, by rw [texts, collected]; rfl⟩

theorem Method.parse_signature_of_blank {m : Method} (blank : m.declaring = []) :
    parse m.signature = .error (.unparseableSignature m.signature) := by
  have unread : ofAngled? m.signature = none := by
    rw [signature, blank, ofAngled?.eq_def]
    rfl
  rw [signature] at unread
  rw [parse, parse?, signature, angled_angle, Except.map, unread]

namespace Discovery
variable {c : Classifier} {k : Catalog} {vacant : Bool}

theorem exists_canonical? {mention : Mention} (named : mention.IsNamed vacant) :
    ∃ found, canonical? mention = .ok found := by
  cases mention with
  | text signature =>
    rw [canonical?]
    by_cases empty : signature = []
    · exact ⟨none, by simp [Mention.signature?, empty, bind, Except.bind, pure, Except.pure]⟩
    · cases parsed : Method.parse signature <;>
        simp [Mention.signature?, empty, bind, Except.bind, pure, Except.pure, parsed]
  | vacant => exact ⟨none, rfl⟩
  | foreign => cases named

theorem exists_graphOf {g : CallGraph} (named : g.IsNamed vacant) :
    ∃ graph, graphOf g.edges = .ok graph := by
  obtain ⟨arcs, collected⟩ : ∃ arcs, (g.edges.filterMap id).mapM arc? = .ok arcs := by
    refine Outcome.exists_mapM fun edge member => ?_
    obtain ⟨callers, callees⟩ := named.edges edge (by simpa using member)
    obtain ⟨caller, first⟩ := exists_canonical? callers
    obtain ⟨callee, second⟩ := exists_canonical? callees
    rw [arc?, first, second]
    exact ⟨_, rfl⟩
  exact ⟨_, by rw [graphOf, collected]; rfl⟩

theorem exists_declaringOf {node : CallGraph.Node} (named : node.method.IsNamed false) :
    ∃ found, declaringOf node = .ok found := by
  rw [declaringOf]
  cases node.declaring with
  | some name => exact ⟨_, rfl⟩
  | none =>
    cases mentioned : node.method with
    | text signature =>
      cases parsed : Method.parse signature <;>
        simp [Mention.required, bind, Except.bind, pure, Except.pure, parsed]
    | vacant =>
      rw [mentioned] at named
      cases named
    | foreign =>
      rw [mentioned] at named
      cases named

theorem exists_declaringClasses {g : CallGraph} (named : g.IsNamed false) :
    ∃ classes, declaringClasses g.nodes = .ok classes := by
  obtain ⟨all, collected⟩ : ∃ all, (g.nodes.filterMap id).mapM declaringOf = .ok all := by
    refine Outcome.exists_mapM fun node member => ?_
    exact exists_declaringOf (named.nodes node (by simpa using member))
  exact ⟨_, by rw [declaringClasses, collected]; rfl⟩

theorem exists_candidatesOf {g : CallGraph} (named : g.IsNamed vacant)
    (given : Option (List Text)) :
    ∃ source mentions, candidatesOf g (given.map .texts) = .ok (source, mentions) ∧
      ∀ mention ∈ mentions, mention.IsNamed vacant := by
  cases given with
  | none => exact ⟨_, _, rfl, named.candidates⟩
  | some names =>
    refine ⟨.given, names.map .text, ?_, fun mention member => ?_⟩
    · rw [Option.map_some, candidatesOf, Mention.ofElements?_texts]
    · obtain ⟨name, -, rfl⟩ := List.mem_map.1 member
      trivial

theorem exists_selected {mentions : List Mention}
    (named : ∀ mention ∈ mentions, mention.IsNamed vacant) :
    ∃ selection, EntryPoint.selected c k ⟨.empty, 0⟩ mentions = .ok selection := by
  obtain ⟨signatures, read⟩ := Mention.exists_texts named
  exact ⟨_, by rw [EntryPoint.selected, read]; rfl⟩

theorem outcome_textual {callGraph : Value} (textual : CallGraph.isTextual false callGraph)
    (given : Option (List Text)) :
    ∃ chosen : NameSet,
      (∀ e, e ∈ chosen ↔ ∃ m, Selects c k callGraph (given.map .texts) m ∧ e = m.signature) ∧
      ∃ report : List Text → Report,
        outcome c k callGraph (given.map .texts) = (entryClasses chosen).map report := by
  obtain ⟨g, read, named⟩ := CallGraph.exists_of_isTextual textual
  obtain ⟨source, mentions, found, mentioned⟩ := exists_candidatesOf named given
  obtain ⟨selection, chosen⟩ := exists_selected (c := c) (k := k) mentioned
  obtain ⟨declared, collected⟩ := exists_declaringClasses named
  obtain ⟨graph, built⟩ := exists_graphOf named
  refine ⟨selection.chosen, fun e => mem_selected read found chosen,
    fun entered => reportOn c g source selection (declared ++ entered) graph, ?_⟩
  simp only [outcome, examined, read, found, chosen, collected, built, bind, Except.bind]
  cases entryClasses selection.chosen <;> rfl

section Entered
variable {callGraph : Value} {given : Option Value} {chosen : NameSet}

theorem Selects.parse_signature_iff {m : Method} (selected : Selects c k callGraph given m) :
    Method.parse m.signature = .ok m ↔ m.declaring ≠ [] := by
  obtain ⟨spelling, spelled⟩ := selected.1.exists_spelling
  exact ⟨Method.declaring_ne_nil_of_parse, Method.parse_signature_of_parse spelled⟩

theorem exists_entryClasses_iff
    (exactly : ∀ e, e ∈ chosen ↔ ∃ m, Selects c k callGraph given m ∧ e = m.signature) :
    (∃ entered, entryClasses chosen = .ok entered) ↔
      ∀ m, Selects c k callGraph given m → m.declaring ≠ [] := by
  constructor
  · rintro ⟨entered, parsed⟩ m selected
    exact selected.parse_signature_iff.1 (parse_of_entryClasses exactly parsed selected)
  · intro declared
    refine Outcome.exists_mapM fun e member => ?_
    obtain ⟨m, selected, rfl⟩ := (exactly e).1 member
    rw [selected.parse_signature_iff.2 (declared m selected)]
    exact ⟨m.declaring, rfl⟩

theorem fault_of_entryClasses
    (exactly : ∀ e, e ∈ chosen ↔ ∃ m, Selects c k callGraph given m ∧ e = m.signature)
    {fault : Fault} (failed : entryClasses chosen = .error fault) :
    ∃ m, Selects c k callGraph given m ∧ m.declaring = [] ∧
      fault = .unparseableSignature m.signature ∧
      ∀ n, Selects c k callGraph given n → n.declaring = [] → ¬ n.signature < m.signature := by
  obtain ⟨before, e, after, split, own, earlier⟩ := Outcome.mapM_error failed
  have listed : e ∈ chosen.toList := by
    rw [split]
    exact List.mem_append_right _ (List.mem_cons_self ..)
  obtain ⟨m, selected, rfl⟩ := (exactly e).1 listed
  have blank : m.declaring = [] := by
    by_contra declared
    rw [selected.parse_signature_iff.2 declared] at own
    cases own
  refine ⟨m, selected, blank, ?_, fun n other bare => ?_⟩
  · rw [Method.parse_signature_of_blank blank] at own
    exact (Except.error.inj own).symm
  · have member : n.signature ∈ before ++ m.signature :: after := by
      rw [← split]
      exact (exactly _).2 ⟨n, other, rfl⟩
    rcases List.mem_append.1 member with first | later
    · obtain ⟨name, read⟩ := earlier _ first
      rw [Method.parse_signature_of_blank bare] at read
      cases read
    · rcases List.mem_cons.1 later with same | last
      · rw [same]
        exact Text.lt_irrefl _
      · have ascending := chosen.ascending
        rw [split] at ascending
        have above := (List.pairwise_cons.1 (List.pairwise_append.1 ascending).2.1).1 _ last
        exact Text.lt_asymm above

end Entered

end Discovery

namespace Session
open Framework

theorem roleIn_of_unlisted {h : Hierarchy} {name : Text} (new : name ∉ h.listed.map (·.1))
    (other : ∀ entry ∈ baseTypes, entry.2 ≠ name) (degraded : Bool) (k : Catalog) :
    (ofHierarchy h h.resolve degraded k).classifier.roleIn name = .plain := by
  cases degraded with
  | true => rfl
  | false =>
    have apart : ∀ entry ∈ baseTypes, h.stores name entry.2 = false := by
      intro entry member
      rw [Bool.eq_false_iff]
      intro stored
      rcases Hierarchy.stores_iff.1 stored with same | root | above
      · exact other entry member same.symm
      · exact ne_rootType_of_mem entry member root
      · exact Hierarchy.not_mem_supertypes new above
    have role : (ofHierarchy h h.resolve false k).classifier.roleIn name =
        roleBy fun base => (h.resolve base).any (h.stores name) :=
      Classifier.roleIn_ofResolver (.hierarchy h) h.resolve name
    rw [role, Hierarchy.roleBy_resolve fun entry member same => absurd same (other entry member),
      roleBy_congr (q := fun _ => false) apart]
    rfl

end Session

namespace Discovery

/-- Over a call graph that names everything by texts, whatever the texts are, discovery returns a
report exactly if no entry point belongs to a class without a name. Else it fails with the first
such entry point, as the only ones that are not read back from what is printed of them. Where the
hierarchy's document has no class without a name, it always returns. -/
theorem discovery_ends (document : Value) (h : Hierarchy)
    (read : Hierarchy.ofValue document = .ok h) (degraded : Bool) (k : Catalog) (callGraph : Value)
    (textual : CallGraph.isTextual false callGraph = true) (given : Option (List Text))
    (earlier : List Session.Request) :
    let s := Session.ofHierarchy h h.resolve degraded k
    let Selected := Selects s.classifier k callGraph (given.map .texts)
    let ended := ((run s.classifier k callGraph (given.map .texts)).run.run
      (s.after earlier {})).1
    ((∃ r, ended = .ok r) ↔ ∀ m, Selected m → m.declaring ≠ []) ∧
    (∀ fault, ended = .error fault → ∃ m, Selected m ∧ m.declaring = [] ∧
      fault = .unparseableSignature m.signature ∧
      ∀ n, Selected n → n.declaring = [] → ¬ n.signature < m.signature) ∧
    (∀ m, Selected m → (Method.parse m.signature = .ok m ↔ m.declaring ≠ [])) ∧
    (Hierarchy.entryOf? [] document = none → ∃ r, ended = .ok r) := by
  intro s Selected ended
  have sound : s.classifier.IsOver h := Session.isOver_ofHierarchy h h.resolve degraded k
  have decided := run_decides sound k callGraph (given.map .texts) _
    (Session.faithful_after sound earlier)
  obtain ⟨chosen, exactly, report, last⟩ :=
    outcome_textual (c := s.classifier) (k := k) textual given
  have whole : ended = (entryClasses chosen).map report := decided.1.trans last
  have returns : (∃ r, ended = .ok r) ↔ ∀ m, Selected m → m.declaring ≠ [] := by
    rw [whole, ← exists_entryClasses_iff exactly]
    cases entryClasses chosen <;> simp [Except.map]
  refine ⟨returns, fun fault failed => ?_, fun m selected => selected.parse_signature_iff,
    fun absent => returns.2 fun m selected blank => ?_⟩
  · rw [whole] at failed
    cases parsed : entryClasses chosen with
    | ok entered =>
      rw [parsed] at failed
      cases failed
    | error own =>
      rw [parsed] at failed
      cases failed
      exact fault_of_entryClasses exactly parsed
  · have new : [] ∉ h.listed.map (·.1) := by
      rw [Hierarchy.mem_map_listed read, absent]
      simp
    have plain := Session.roleIn_of_unlisted new (by decide) degraded k
    have driven := selected.2.1
    rw [blank, plain] at driven
    cases driven

theorem discovery_ends_malformed :
    let document := Value.record [("classes", .record [
      ("a.B", .list [.text "android.app.Activity"])])]
    let callGraph := Value.record [
      ("nodes", .list [.record [("method", .text "< : void onStart()>")],
        .record [("method", .text "La/B;->onStart([)V")],
        .record [("class", .text ""), ("method", .text "<a.B: void onStart()>")]]),
      ("edges", .list [.record [("caller", .text "La/B;->f(Lc)V"), ("callee", .text "f")]])]
    ∃ h, Hierarchy.ofValue document = .ok h ∧ CallGraph.isTextual false callGraph = true ∧
      Hierarchy.entryOf? [] document = none ∧
      let c := (Session.ofHierarchy h h.resolve false .builtin).classifier
      (∃ r, ((run c .builtin callGraph none).run.run {}).1 = .ok r) ∧
        ∀ m, Selects c .builtin callGraph none m → Method.parse m.signature = .ok m := by
  intro document callGraph
  have read : Hierarchy.ofValue document =
      .ok ⟨[("a.B", .ofList ["android.app.Activity"])]⟩ := rfl
  have textual : CallGraph.isTextual false callGraph = true := by decide +kernel
  have absent : Hierarchy.entryOf? [] document = none := rfl
  obtain ⟨returns, -, again, always⟩ :=
    discovery_ends document _ read false .builtin callGraph textual none []
  have ended := always absent
  exact ⟨_, read, textual, absent, ended, fun m selected =>
    (again m selected).2 (returns.1 ended m selected)⟩

theorem discovery_blank_class :
    let document := Value.record [("classes", .record [
      ("", .list [.text "android.app.Activity"])])]
    let callGraph := Value.record [("nodes", .list [
      .record [("method", .text "< : void onCreate(android.os.Bundle)>"),
        ("class", .text "a.B")]])]
    CallGraph.isTextual false callGraph = true ∧
      ∃ h, Hierarchy.ofValue document = .ok h ∧
        let c := (Session.ofHierarchy h h.resolve false .builtin).classifier
        ((run c .builtin callGraph none).run.run {}).1 =
          .error (.unparseableSignature "<: void onCreate(android.os.Bundle)>") := by
  intro document callGraph
  refine ⟨by decide +kernel, ⟨[("", .ofList ["android.app.Activity"])]⟩, rfl, ?_⟩
  decide +kernel

end Discovery

end DroidRoots
