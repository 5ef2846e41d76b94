import DroidRoots.Discovery
import DroidRoots.Proofs.Outcomes

/-! What a document says about a call graph: the entries of its lists, the candidates among
its methods, the classes that its nodes name, and the calls that its edges stand for. A call
graph that could be read holds exactly these. -/

namespace DroidRoots

theorem Value.elements?_of_missing {value : Value} {elements : List Value}
    (missing : value.isPresent = false) (h : value.elements? = some elements) : elements = [] := by
  cases value with
  | list items => simp_all [isPresent, elements?]
  | object entries => simp_all [isPresent, elements?]
  | set members => simp_all [isPresent, elements?]
  | pair first second => cases missing
  | knot number => cases missing
  | scalar s =>
    cases s with
    | text s => simp_all [elements?]
    | bytes b => simp_all [isPresent, Scalar.isPresent, elements?]
    | _ => cases h

theorem Mention.ofValue_eq_text {value : Value} {signature : Text} :
    ofValue value = .text signature ↔ value = .text signature := by
  constructor
  · intro made
    unfold ofValue at made
    split at made
    · cases made
      rfl
    · split at made <;> cases made
  · rintro rfl
    rfl

namespace CallGraph

def Entry (name : Text) (document entry : Value) : Prop :=
  ∃ fields value elements, document = .object fields ∧ Value.field? name fields = some value ∧
    value.elements? = some elements ∧ entry ∈ elements

theorem mem_elementsUnder {name : Text} {fields : List (Scalar × Value)} {elements : List Value}
    (h : elementsUnder name fields = .ok elements) {entry : Value} :
    entry ∈ elements ↔ Entry name (.object fields) entry := by
  have unfolded : Entry name (.object fields) entry ↔ ∃ value elements,
      Value.field? name fields = some value ∧ value.elements? = some elements ∧
        entry ∈ elements := by
    simp [Entry]
  rw [unfolded]
  cases found : Value.field? name fields with
  | none =>
    have empty : elementsUnder name fields = .ok [] := by
      simp only [elementsUnder, Value.fieldD, found]
      rfl
    obtain rfl : [] = elements := Except.ok.inj (empty.symm.trans h)
    simp
  | some value =>
    have same : Value.fieldD name fields (.list []) = value := by
      rw [Value.fieldD, found]
      rfl
    simp only [elementsUnder, same] at h
    by_cases present : value.isPresent = true
    · rw [if_neg (by simp [present])] at h
      cases collected : value.elements? with
      | none =>
        rw [collected] at h
        cases h
      | some held =>
        rw [collected] at h
        obtain rfl : held = elements := Except.ok.inj h
        simp [collected]
    · rw [if_pos (by simpa using present)] at h
      obtain rfl : [] = elements := Except.ok.inj h
      have hollow (held : List Value) (collected : value.elements? = some held) : held = [] :=
        Value.elements?_of_missing (by simpa using present) collected
      simp only [List.not_mem_nil, false_iff]
      rintro ⟨other, held, same, collected, member⟩
      cases same
      rw [hollow held collected] at member
      cases member

variable {document : Value} {g : CallGraph}

theorem lists_of_ofValue (h : ofValue document = .ok g) :
    ∃ nodes edges : List Value,
      g.nodes = nodes.map Node.ofValue ∧ g.edges = edges.map Edge.ofValue ∧
      (∀ entry, entry ∈ nodes ↔ Entry "nodes" document entry) ∧
      ∀ entry, entry ∈ edges ↔ Entry "edges" document entry := by
  cases document with
  | object fields =>
    rw [ofValue] at h
    obtain ⟨nodes, foundNodes, h⟩ := Outcome.bind_ok h
    obtain ⟨edges, foundEdges, h⟩ := Outcome.bind_ok h
    obtain rfl := Except.ok.inj h
    exact ⟨nodes, edges, rfl, rfl, fun _ => mem_elementsUnder foundNodes,
      fun _ => mem_elementsUnder foundEdges⟩
  | _ => cases h

theorem mem_map_read {α : Type} {read : Value → Option α} {name : Text} {entries : List Value}
    (objects : ∀ entry a, read entry = some a → ∃ fields, entry = .object fields)
    (exactly : ∀ entry, entry ∈ entries ↔ Entry name document entry) {a : α} :
    some a ∈ entries.map read ↔
      ∃ fields, Entry name document (.object fields) ∧ read (.object fields) = some a := by
  rw [List.mem_map]
  constructor
  · rintro ⟨entry, member, made⟩
    obtain ⟨fields, rfl⟩ := objects entry a made
    exact ⟨fields, (exactly _).1 member, made⟩
  · rintro ⟨fields, entry, made⟩
    exact ⟨.object fields, (exactly _).2 entry, made⟩

theorem mem_nodes (h : ofValue document = .ok g) {node : Node} :
    some node ∈ g.nodes ↔ ∃ fields, Entry "nodes" document (.object fields) ∧
      Node.ofValue (.object fields) = some node := by
  obtain ⟨nodes, edges, read, -, exactly, -⟩ := lists_of_ofValue h
  rw [read]
  refine mem_map_read (fun entry node made => ?_) exactly
  cases entry with
  | object fields => exact ⟨fields, rfl⟩
  | _ => cases made

theorem mem_edges (h : ofValue document = .ok g) {edge : Edge} :
    some edge ∈ g.edges ↔ ∃ fields, Entry "edges" document (.object fields) ∧
      Edge.ofValue (.object fields) = some edge := by
  obtain ⟨nodes, edges, -, read, -, exactly⟩ := lists_of_ofValue h
  rw [read]
  refine mem_map_read (fun entry edge made => ?_) exactly
  cases entry with
  | object fields => exact ⟨fields, rfl⟩
  | _ => cases made

end CallGraph

namespace Discovery

def Reads (name : Text) (fields : List (Scalar × Value)) (m : Method) : Prop :=
  ∃ signature, Value.field? name fields = some (.text signature) ∧
    Method.parse signature = .ok m

/-- A method that could be an entry point: one that is given, or else that of a node. -/
def Candidate (callGraph : Value) (given : Option Value) (m : Method) : Prop :=
  match given with
  | none => ∃ fields, CallGraph.Entry "nodes" callGraph (.object fields) ∧ Reads "method" fields m
  | some value => ∃ elements signature, value.elements? = some elements ∧
      .text signature ∈ elements ∧ Method.parse signature = .ok m

/-- The class that a node is declared in: by its field, or else by its method. -/
def Declares (fields : List (Scalar × Value)) (name : Text) : Prop :=
  let declaring := Value.fieldD "class" fields .null
  if declaring.isPresent then name = declaring.shown
  else ∃ m, Reads "method" fields m ∧ name = m.declaring

def Joins (callGraph : Value) (caller callee : Text) : Prop :=
  ∃ fields m n, CallGraph.Entry "edges" callGraph (.object fields) ∧ Reads "caller" fields m ∧
    Reads "callee" fields n ∧ caller = m.signature ∧ callee = n.signature

variable {fields : List (Scalar × Value)} {name : Text}

theorem parse_nil : Method.parse [] = .error (.unparseableSignature []) := rfl

theorem reads_iff {m : Method} : Reads name fields m ↔
    ∃ signature, Mention.ofField name fields = .text signature ∧
      Method.parse signature = .ok m := by
  rw [Mention.ofField, Value.fieldD, Reads]
  cases found : Value.field? name fields with
  | some value => simp [Mention.ofValue_eq_text]
  | none =>
    constructor
    · rintro ⟨signature, none, -⟩
      cases none
    · rintro ⟨signature, same, parsed⟩
      obtain rfl := Mention.text.inj same
      rw [parse_nil] at parsed
      cases parsed

theorem canonical?_eq_some {mention : Mention} {a : Text} :
    canonical? mention = .ok (some a) ↔ ∃ signature m, mention = .text signature ∧
      Method.parse signature = .ok m ∧ a = m.signature := by
  cases mention with
  | vacant => simp [canonical?, Mention.signature?, bind, Except.bind, pure, Except.pure]
  | foreign => simp [canonical?, Mention.signature?, bind, Except.bind]
  | text signature =>
    by_cases empty : signature = []
    · simp [canonical?, Mention.signature?, bind, Except.bind, empty, pure, Except.pure, parse_nil]
    · cases parsed : Method.parse signature <;>
        simp [canonical?, Mention.signature?, bind, Except.bind, empty, pure, Except.pure, parsed,
          eq_comm]

theorem exists_reads {P : Method → Prop} :
    (∃ signature m, Mention.ofField name fields = .text signature ∧
      Method.parse signature = .ok m ∧ P m) ↔ ∃ m, Reads name fields m ∧ P m := by
  constructor
  · rintro ⟨signature, m, same, parsed, holds⟩
    exact ⟨m, reads_iff.2 ⟨signature, same, parsed⟩, holds⟩
  · rintro ⟨m, read, holds⟩
    obtain ⟨signature, same, parsed⟩ := reads_iff.1 read
    exact ⟨signature, m, same, parsed, holds⟩

theorem canonical?_ofField {a : Text} :
    canonical? (.ofField name fields) = .ok (some a) ↔
      ∃ m, Reads name fields m ∧ a = m.signature :=
  canonical?_eq_some.trans exists_reads

theorem arc?_eq_some {edge : CallGraph.Edge} {a b : Text} :
    arc? edge = .ok (some (a, b)) ↔
      canonical? edge.caller = .ok (some a) ∧ canonical? edge.callee = .ok (some b) := by
  rw [arc?]
  cases canonical? edge.caller with
  | error fault => simp [bind, Except.bind]
  | ok caller =>
    cases canonical? edge.callee with
    | error fault => simp [bind, Except.bind]
    | ok callee => cases caller <;> cases callee <;> simp [bind, Except.bind, pure, Except.pure]

variable {document : Value} {g : CallGraph}

theorem mem_arcs (h : CallGraph.ofValue document = .ok g) {graph : Digraph}
    (built : graphOf g.edges = .ok graph) {a b : Text} :
    (a, b) ∈ graph.arcs ↔ Joins document a b := by
  obtain ⟨arcs, collected, rfl⟩ := Outcome.map_ok built
  have members : (a, b) ∈ arcs.filterMap id ↔
      ∃ edge ∈ g.edges.filterMap id, arc? edge = .ok (some (a, b)) := by
    simp [Outcome.mem_mapM collected]
  rw [members]
  constructor
  · rintro ⟨edge, member, joined⟩
    obtain ⟨fields, entry, made⟩ := (CallGraph.mem_edges h).1 (by simpa using member)
    obtain rfl := Option.some.inj made
    obtain ⟨from?, to?⟩ := arc?_eq_some.1 joined
    obtain ⟨m, caller, rfl⟩ := canonical?_ofField.1 from?
    obtain ⟨n, callee, rfl⟩ := canonical?_ofField.1 to?
    exact ⟨fields, m, n, entry, caller, callee, rfl, rfl⟩
  · rintro ⟨fields, m, n, entry, caller, callee, rfl, rfl⟩
    refine ⟨_, by simpa using (CallGraph.mem_edges h).2 ⟨fields, entry, rfl⟩, arc?_eq_some.2 ?_⟩
    exact ⟨canonical?_ofField.2 ⟨m, caller, rfl⟩, canonical?_ofField.2 ⟨n, callee, rfl⟩⟩

theorem declaringOf_unnamed {mention : Mention} :
    declaringOf ⟨mention, none⟩ = .ok (some name) ↔ ∃ signature m, mention = .text signature ∧
      Method.parse signature = .ok m ∧ name = m.declaring := by
  cases mention with
  | vacant => simp [declaringOf, Mention.required, bind, Except.bind]
  | foreign => simp [declaringOf, Mention.required, bind, Except.bind]
  | text signature =>
    cases parsed : Method.parse signature <;>
      simp [declaringOf, Mention.required, bind, Except.bind, pure, Except.pure, parsed, eq_comm]

theorem declaringOf_eq_some {node : CallGraph.Node}
    (made : CallGraph.Node.ofValue (.object fields) = some node) :
    declaringOf node = .ok (some name) ↔ Declares fields name := by
  obtain rfl := Option.some.inj made
  simp only [Declares]
  by_cases present : (Value.fieldD "class" fields .null).isPresent = true
  · simp only [present, if_true]
    rw [declaringOf, Except.ok.injEq, Option.some.injEq, eq_comm]
  · simp only [present, Bool.false_eq_true, if_false]
    exact declaringOf_unnamed.trans exists_reads

theorem mem_declaringClasses (h : CallGraph.ofValue document = .ok g) {classes : List Text}
    (collected : declaringClasses g.nodes = .ok classes) :
    name ∈ classes ↔
      ∃ fields, CallGraph.Entry "nodes" document (.object fields) ∧ Declares fields name := by
  rw [Outcome.mem_filterMap_mapM collected]
  constructor
  · rintro ⟨node, member, declared⟩
    obtain ⟨fields, entry, made⟩ := (CallGraph.mem_nodes h).1 (by simpa using member)
    exact ⟨fields, entry, (declaringOf_eq_some made).1 declared⟩
  · rintro ⟨fields, entry, declared⟩
    exact ⟨_, by simpa using (CallGraph.mem_nodes h).2 ⟨fields, entry, rfl⟩,
      (declaringOf_eq_some rfl).2 declared⟩

theorem mem_candidatesOf (h : CallGraph.ofValue document = .ok g) {given : Option Value}
    {source : Source} {mentions : List Mention}
    (found : candidatesOf g given = .ok (source, mentions)) {m : Method} :
    (∃ signature, .text signature ∈ mentions ∧ Method.parse signature = .ok m) ↔
      Candidate document given m := by
  cases given with
  | none =>
    obtain rfl : g.candidates = mentions := congrArg Prod.snd (Except.ok.inj found)
    simp only [CallGraph.candidates, List.mem_filterMap, Candidate]
    constructor
    · rintro ⟨signature, ⟨node, member, found⟩, parsed⟩
      obtain ⟨known, rfl, mentioned⟩ := Option.map_eq_some_iff.1 found
      obtain ⟨fields, entry, made⟩ := (CallGraph.mem_nodes h).1 member
      obtain rfl := Option.some.inj made
      exact ⟨fields, entry, reads_iff.2 ⟨signature, mentioned, parsed⟩⟩
    · rintro ⟨fields, entry, read⟩
      obtain ⟨signature, mentioned, parsed⟩ := reads_iff.1 read
      exact ⟨signature, ⟨_, (CallGraph.mem_nodes h).2 ⟨fields, entry, rfl⟩,
        congrArg some mentioned⟩, parsed⟩
  | some value =>
    rw [candidatesOf, Mention.ofElements?] at found
    cases collected : value.elements? with
    | none =>
      rw [collected] at found
      cases found
    | some elements =>
      rw [collected] at found
      obtain rfl : elements.map Mention.ofValue = mentions :=
        congrArg Prod.snd (Except.ok.inj found)
      simp [Candidate, collected, List.mem_map, Mention.ofValue_eq_text]

theorem Candidate.exists_spelling {given : Option Value} {m : Method}
    (candidate : Candidate document given m) : ∃ signature, Method.parse signature = .ok m := by
  cases given with
  | none =>
    obtain ⟨fields, -, signature, -, parsed⟩ := candidate
    exact ⟨signature, parsed⟩
  | some value =>
    obtain ⟨elements, signature, -, -, parsed⟩ := candidate
    exact ⟨signature, parsed⟩

end Discovery

end DroidRoots
