import DroidRoots.Proofs.DiscoveryReport
import DroidRoots.Proofs.SearchRounds

/-! Discovery in another order. If the nodes and edges of a call graph and the given candidates are
listed in another order, each part of a discovery ends with the same fault as before, or with
results that differ in order at most. Reports hold sets and counts, so they do not differ. -/

namespace DroidRoots

inductive Alike {ε α β : Type} (R : α → β → Prop) : Except ε α → Except ε β → Prop
  | ok {a : α} {b : β} (related : R a b) : Alike R (.ok a) (.ok b)
  | error (fault : ε) : Alike R (.error fault) (.error fault)

namespace Alike
variable {ε α β γ δ : Type} {R : α → β → Prop} {S : γ → δ → Prop} {x : Except ε α} {y : Except ε β}

protected theorem bind {f : α → Except ε γ} {g : β → Except ε δ} (first : Alike R x y)
    (next : ∀ a b, R a b → Alike S (f a) (g b)) : Alike S (x >>= f) (y >>= g) := by
  cases first with
  | ok related => exact next _ _ related
  | error fault => exact .error fault

protected theorem map {f : α → γ} {g : β → δ} (first : Alike R x y)
    (next : ∀ a b, R a b → S (f a) (g b)) : Alike S (x.map f) (y.map g) := by
  cases first with
  | ok related => exact .ok (next _ _ related)
  | error fault => exact .error fault

theorem of_eq {y : Except ε α} (same : x = y) : Alike Eq x y := by
  subst same
  cases x with
  | ok a => exact .ok rfl
  | error fault => exact .error fault

protected theorem eq {y : Except ε α} (alike : Alike Eq x y) : x = y := by
  cases alike with
  | ok same => rw [same]
  | error fault => rfl

theorem perm_trans {x y z : Except ε (List α)} (first : Alike List.Perm x y)
    (second : Alike List.Perm y z) : Alike List.Perm x z := by
  cases first with
  | ok related =>
    cases second with
    | ok further => exact .ok (related.trans further)
  | error fault => exact second

theorem mapM_perm {f : α → Except ε γ} {fault : ε}
    (only : ∀ a other, f a = .error other → other = fault) {xs ys : List α} (perm : xs.Perm ys) :
    Alike List.Perm (xs.mapM f) (ys.mapM f) := by
  induction perm with
  | nil => exact .ok .nil
  | cons a _ ih =>
    rw [List.mapM_cons, List.mapM_cons]
    refine (of_eq rfl).bind fun b _ same => ?_
    subst same
    exact ih.bind fun us vs related => .ok (related.cons b)
  | swap a b rest =>
    simp only [List.mapM_cons]
    -- with two faults at hand, the order would tell which of them is met first
    cases first : f a with
    | error other =>
      obtain rfl := only a other first
      cases second : f b with
      | error other =>
        obtain rfl := only b other second
        exact .error _
      | ok c => exact .error _
    | ok c =>
      cases f b with
      | error other => exact .error other
      | ok d =>
        cases rest.mapM f with
        | error other => exact .error other
        | ok others => exact .ok (.swap c d others)
  | trans _ _ first second => exact first.perm_trans second

end Alike

theorem NameSet.ofList_congr {names others : List Text} (same : ∀ x, x ∈ names ↔ x ∈ others) :
    ofList names = ofList others := by
  apply ext_mem
  intro x
  rw [mem_ofList, mem_ofList, same x]

theorem Digraph.reachable_congr {g h : Digraph} (same : ∀ arc, arc ∈ g.arcs ↔ arc ∈ h.arcs)
    (roots : List Text) : g.reachable roots = h.reachable roots := by
  have paths : g.Leads = h.Leads := by
    rw [Leads, Leads]
    simp only [same]
  apply NameSet.ext_mem
  intro name
  rw [mem_reachable, mem_reachable, paths]

namespace Mention

theorem fault_of_signature? {mention : Mention} {fault : Fault}
    (failed : mention.signature? = .error fault) : fault = .expectedText := by
  cases mention with
  | foreign => exact (Except.error.inj failed).symm
  | _ => cases failed

theorem fault_of_required {mention : Mention} {fault : Fault}
    (failed : mention.required = .error fault) : fault = .expectedText := by
  cases mention with
  | text signature => cases failed
  | _ => exact (Except.error.inj failed).symm

theorem texts_perm {mentions others : List Mention} (perm : mentions.Perm others) :
    Alike List.Perm (texts mentions) (texts others) :=
  (Alike.mapM_perm (fun _ _ => fault_of_signature?) perm).map fun _ _ related =>
    related.filterMap id

end Mention

namespace EntryPoint
variable {c : Classifier} {k : Catalog}

theorem consider_comm (found : Selection) (a b : Text) :
    consider c k (consider c k found a) b = consider c k (consider c k found b) a := by
  apply Selection.ext_mem
  · intro e
    simp only [mem_consider]
    exact or_right_comm
  · simp only [unparsed_consider]
    exact Nat.add_right_comm ..

theorem selected_perm (found : Selection) {mentions others : List Mention}
    (perm : mentions.Perm others) : selected c k found mentions = selected c k found others := by
  apply Alike.eq
  refine (Mention.texts_perm perm).map fun signatures _ related => ?_
  exact related.foldl_eq' (fun a _ b _ found => consider_comm found a b) found

end EntryPoint

namespace CallGraph

def listed (name : Text) : Value → Except Fault (List Value)
  | .object fields => elementsUnder name fields
  | _ => .error .expectedObject

/-- Two documents list the same nodes and the same edges, each in an order of its own. -/
structure Rearranged (document other : Value) : Prop where
  nodes : Alike List.Perm (listed "nodes" document) (listed "nodes" other)
  edges : Alike List.Perm (listed "edges" document) (listed "edges" other)

structure Shuffled (g h : CallGraph) : Prop where
  nodes : g.nodes.Perm h.nodes
  edges : g.edges.Perm h.edges

theorem ofValue_eq (document : Value) : ofValue document =
    (do
      let nodes ← listed "nodes" document
      let edges ← listed "edges" document
      return { nodes := nodes.map Node.ofValue, edges := edges.map Edge.ofValue }) := by
  cases document <;> rfl

theorem Rearranged.ofValue {document other : Value} (rearranged : Rearranged document other) :
    Alike Shuffled (ofValue document) (ofValue other) := by
  rw [ofValue_eq, ofValue_eq]
  refine rearranged.nodes.bind fun xs ys nodes => ?_
  refine rearranged.edges.bind fun us vs edges => ?_
  exact .ok ⟨nodes.map _, edges.map _⟩

theorem Shuffled.candidates {g h : CallGraph} (shuffled : Shuffled g h) :
    g.candidates.Perm h.candidates := shuffled.nodes.filterMap _

end CallGraph

namespace Discovery

theorem fault_of_declaringOf {node : CallGraph.Node} {fault : Fault}
    (failed : declaringOf node = .error fault) : fault = .expectedText := by
  rw [declaringOf] at failed
  split at failed
  · cases failed
  · rcases Outcome.bind_error failed with missing | ⟨signature, -, failed⟩
    · exact Mention.fault_of_required missing
    · split at failed <;> cases failed

theorem fault_of_canonical? {mention : Mention} {fault : Fault}
    (failed : canonical? mention = .error fault) : fault = .expectedText := by
  rw [canonical?] at failed
  rcases Outcome.bind_error failed with missing | ⟨found, -, failed⟩
  · exact Mention.fault_of_signature? missing
  · split at failed
    · cases failed
    · split at failed <;> cases failed

theorem fault_of_arc? {edge : CallGraph.Edge} {fault : Fault}
    (failed : arc? edge = .error fault) : fault = .expectedText := by
  rw [arc?] at failed
  rcases Outcome.bind_error failed with caller | ⟨a, -, failed⟩
  · exact fault_of_canonical? caller
  · rcases Outcome.bind_error failed with callee | ⟨b, -, failed⟩
    · exact fault_of_canonical? callee
    · cases failed

theorem declaringClasses_perm {nodes others : List (Option CallGraph.Node)}
    (perm : nodes.Perm others) :
    Alike List.Perm (declaringClasses nodes) (declaringClasses others) :=
  (Alike.mapM_perm (fun _ _ => fault_of_declaringOf) (perm.filterMap id)).map fun _ _ related =>
    related.filterMap id

theorem graphOf_perm {edges others : List (Option CallGraph.Edge)} (perm : edges.Perm others) :
    Alike (fun g h => g.arcs.Perm h.arcs) (graphOf edges) (graphOf others) :=
  (Alike.mapM_perm (fun _ _ => fault_of_arc?) (perm.filterMap id)).map fun _ _ related =>
    related.filterMap id

inductive Regiven : Option Value → Option Value → Prop
  | none : Regiven none none
  | some {value other : Value} {xs ys : List Value} (listed : value.elements? = some xs)
      (relisted : other.elements? = some ys) (perm : xs.Perm ys) :
      Regiven (some value) (some other)

theorem Regiven.candidatesOf {g h : CallGraph} (shuffled : g.Shuffled h)
    {given other : Option Value} (regiven : Regiven given other) :
    Alike (fun a b => a.1 = b.1 ∧ a.2.Perm b.2) (candidatesOf g given) (candidatesOf h other) := by
  cases regiven with
  | none => exact .ok ⟨rfl, shuffled.candidates⟩
  | some listed relisted perm =>
    simp only [Discovery.candidatesOf, Mention.ofElements?, listed, relisted, Option.map_some]
    exact .ok ⟨rfl, perm.map _⟩

variable {c : Classifier} {k : Catalog}

theorem reportOn_perm {g h : CallGraph} (shuffled : g.Shuffled h) (source : Source)
    (selection : EntryPoint.Selection) {classes others : List Text} (same : classes.Perm others)
    {graph other : Digraph} (arcs : graph.arcs.Perm other.arcs) :
    reportOn c g source selection classes graph = reportOn c h source selection others other := by
  have named : NameSet.ofList classes = NameSet.ofList others :=
    NameSet.ofList_congr fun _ => same.mem_iff
  have reached : graph.reachable selection.chosen.toList =
      other.reachable selection.chosen.toList := Digraph.reachable_congr (fun _ => arcs.mem_iff) _
  simp only [reportOn, named, reached, shuffled.nodes.length_eq, shuffled.edges.length_eq]

theorem examined_perm {g h : CallGraph} (shuffled : g.Shuffled h) (source : Source)
    {candidates others : List Mention} (perm : candidates.Perm others) :
    examined c k g source candidates = examined c k h source others := by
  apply Alike.eq
  rw [examined, examined, EntryPoint.selected_perm _ perm]
  refine (Alike.of_eq rfl).bind fun selection _ same => ?_
  subst same
  -- the entry points are one set already, so their classes come in one order
  refine (declaringClasses_perm shuffled.nodes).bind fun declared redeclared classes => ?_
  refine (Alike.of_eq rfl).bind fun entered _ same => ?_
  subst same
  refine (graphOf_perm shuffled.edges).bind fun graph other arcs => ?_
  exact .ok (reportOn_perm shuffled source selection (classes.append_right entered) arcs)

theorem outcome_of_rearranged {callGraph other : Value} {given regiven : Option Value}
    (rearranged : CallGraph.Rearranged callGraph other) (again : Regiven given regiven) :
    outcome c k callGraph given = outcome c k other regiven := by
  apply Alike.eq
  refine rearranged.ofValue.bind fun g h shuffled => ?_
  refine (again.candidatesOf shuffled).bind fun (source, candidates) (_, others) related => ?_
  obtain ⟨rfl, perm⟩ := related
  exact .of_eq (examined_perm shuffled source perm)

/-- If call graphs list the same nodes and edges in different orders, and so do the given
candidates, discovery ends alike for both: with one and the same report or with the same fault,
whatever was requested before in either session. -/
theorem order_independence (h : Hierarchy) (resolve : Text → Option Text) (degraded : Bool)
    (k : Catalog) (callGraph other : Value) (given regiven : Option Value)
    (rearranged : CallGraph.Rearranged callGraph other) (again : Regiven given regiven)
    (earlier later : List Session.Request) :
    let s := Session.ofHierarchy h resolve degraded k
    ((run s.classifier k callGraph given).run.run (s.after earlier {})).1 =
      ((run s.classifier k other regiven).run.run (s.after later {})).1 := by
  intro s
  have sound : s.classifier.IsOver s.hierarchy := Session.isOver_ofHierarchy h resolve degraded k
  have first := run_decides sound k callGraph given _ (Session.faithful_after sound earlier)
  have second := run_decides sound k other regiven _ (Session.faithful_after sound later)
  rw [first.1, second.1, outcome_of_rearranged rearranged again]

theorem order_independence_reversed :
    let h : Hierarchy := ⟨[("a.B", .ofList ["android.app.Activity"]),
      ("c.D", .ofList ["android.app.Service"])]⟩
    let k : Catalog := ⟨"one", [(.activity, .ofList ["void onStart()"]),
      (.service, .ofList ["void onDestroy()"])]⟩
    let s := Session.ofHierarchy h some false k
    let nodes : List Value := [.record [("method", .text "<e.F: void f()>")],
      .record [("class", .text "c.D")], .null]
    let call (caller callee : Text) : Value :=
      .record [("caller", .text caller), ("callee", .text callee)]
    let edges : List Value := [call "<a.B: void onStart()>" "<e.F: void f()>",
      call "Le/F;->f()V" "<e.F: void g()>", call "<a.B: void onStart()>" "<e.F: void f()>"]
    let candidates : List Value := [.text "Lc/D;->onDestroy()V", .text "f",
      .text "<a.B : void onStart( )>"]
    let callGraph := Value.record [("nodes", .list nodes), ("edges", .list edges)]
    let other := Value.record [("edges", .list edges.reverse), ("nodes", .list nodes.reverse)]
    let earlier := [Session.Request.role "c.D", .entryMethod none]
    CallGraph.Rearranged callGraph other ∧
      Regiven (some (.list candidates)) (some (.list candidates.reverse)) ∧
      ∃ r, ((run s.classifier k callGraph (some (.list candidates))).run.run
          (s.after earlier {})).1 = .ok r ∧
        ((run s.classifier k other (some (.list candidates.reverse))).run.run
          (s.after [] {})).1 = .ok r ∧
        r.reachable.toList = [Text.of "<a.B: void onStart()>", Text.of "<c.D: void onDestroy()>",
          Text.of "<e.F: void f()>", Text.of "<e.F: void g()>"] ∧ r.unparsed = 1 := by
  intro h k s nodes call edges candidates callGraph other earlier
  have rearranged : CallGraph.Rearranged callGraph other :=
    ⟨.ok (List.reverse_perm nodes).symm, .ok (List.reverse_perm edges).symm⟩
  have again : Regiven (some (.list candidates)) (some (.list candidates.reverse)) :=
    .some rfl rfl (List.reverse_perm candidates).symm
  have computed : ((run s.classifier k callGraph (some (.list candidates))).run.run
      (s.after earlier {})).1.toOption.map (fun r => (r.reachable.toList, r.unparsed)) =
      some ([Text.of "<a.B: void onStart()>", Text.of "<c.D: void onDestroy()>",
        Text.of "<e.F: void f()>", Text.of "<e.F: void g()>"], 1) := by
    decide +kernel
  obtain ⟨r, ended, parts⟩ := Option.map_eq_some_iff.1 computed
  obtain ⟨reached, skipped⟩ := Prod.mk.inj parts
  have returned := Outcome.eq_ok_of_toOption ended
  have same := order_independence h some false k callGraph other _ _ rearranged again
    earlier []
  exact ⟨rearranged, again, r, returned, same.symm.trans returned, reached, skipped⟩

end Discovery

end DroidRoots
