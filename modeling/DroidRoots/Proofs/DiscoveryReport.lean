import DroidRoots.Proofs.CallGraphEntries
import DroidRoots.Proofs.SessionHistory
import DroidRoots.Proofs.SignatureRoundTrip

/-! What a report says. The entry points are the candidates that the framework calls, in
canonical form, and the components are the classes of nodes and entry points that are not
plain, with their roles. -/

namespace DroidRoots

variable {c : Classifier} {k : Catalog}

theorem Mention.mem_texts {mentions : List Mention} {signatures : List Text}
    (read : texts mentions = .ok signatures) {signature : Text} :
    signature ∈ signatures ↔ .text signature ∈ mentions ∧ signature ≠ [] := by
  rw [Outcome.mem_filterMap_mapM read]
  constructor
  · rintro ⟨mention, member, found⟩
    cases mention with
    | text other =>
      by_cases empty : other = []
      · simp [signature?, empty] at found
      · obtain rfl : other = signature := by simpa [signature?, empty] using found
        exact ⟨member, empty⟩
    | vacant => cases found
    | foreign => cases found
  · rintro ⟨member, present⟩
    exact ⟨_, member, by simp [signature?, present]⟩

namespace EntryPoint

theorem holds_iff {spelling : Text} {m : Method} (read : Method.parse spelling = .ok m) :
    holds c k m = true ↔ (c.roleIn m.declaring).hasTable = true ∧
      m.subsignature ∈ k.methodsFor (c.roleIn m.declaring) := by
  have canonical : Subsignature.canonical m.subsignature = m.subsignature :=
    (Method.member_of_parse read).canonical_render
  rw [holds, Bool.and_eq_true, Catalog.contains, decide_eq_true_iff, canonical]

theorem mem_consider {found : Selection} {signature e : Text} :
    e ∈ (consider c k found signature).chosen ↔ e ∈ found.chosen ∨
      ∃ m, Method.parse signature = .ok m ∧ holds c k m = true ∧ e = m.signature := by
  rw [consider]
  cases read : Method.parse signature with
  | error fault => simp
  | ok m =>
    by_cases entry : holds c k m = true
    · simp [entry, or_comm]
    · simp [entry]

theorem unparsed_consider {found : Selection} {signature : Text} :
    (consider c k found signature).unparsed =
      found.unparsed + if (Method.parse signature).isOk then 0 else 1 := by
  rw [consider]
  cases Method.parse signature with
  | error fault => rfl
  | ok m => by_cases entry : holds c k m = true <;> simp [entry, Except.isOk, Except.toBool]

theorem Selection.ext_mem {a b : Selection} (chosen : ∀ e, e ∈ a.chosen ↔ e ∈ b.chosen)
    (unparsed : a.unparsed = b.unparsed) : a = b := by
  cases a
  cases b
  congr 1
  exact NameSet.ext_mem chosen

theorem mem_foldl_consider {found : Selection} {signatures : List Text} {e : Text} :
    e ∈ (signatures.foldl (consider c k) found).chosen ↔ e ∈ found.chosen ∨
      ∃ signature ∈ signatures, ∃ m, Method.parse signature = .ok m ∧ holds c k m = true ∧
        e = m.signature := by
  induction signatures generalizing found with
  | nil => simp
  | cons signature rest ih =>
    rw [List.foldl_cons, ih, mem_consider]
    simp [or_assoc]

end EntryPoint

namespace Discovery

/-- A candidate that the framework calls: its class has a role whose table holds it. -/
def Selects (c : Classifier) (k : Catalog) (callGraph : Value) (given : Option Value)
    (m : Method) : Prop :=
  Candidate callGraph given m ∧ (c.roleIn m.declaring).hasTable = true ∧
    m.subsignature ∈ k.methodsFor (c.roleIn m.declaring)

/-- A class that a report is about: that of a node or of a selected candidate. -/
def Concerns (c : Classifier) (k : Catalog) (callGraph : Value) (given : Option Value)
    (name : Text) : Prop :=
  (∃ fields, CallGraph.Entry "nodes" callGraph (.object fields) ∧ Declares fields name) ∨
    ∃ m, Selects c k callGraph given m ∧ name = m.declaring

variable {callGraph : Value} {given : Option Value} {r : Report}

theorem exists_of_outcome (ended : outcome c k callGraph given = .ok r) :
    ∃ g source mentions selection declared entered graph,
      CallGraph.ofValue callGraph = .ok g ∧ candidatesOf g given = .ok (source, mentions) ∧
      EntryPoint.selected c k ⟨.empty, 0⟩ mentions = .ok selection ∧
      declaringClasses g.nodes = .ok declared ∧ entryClasses selection.chosen = .ok entered ∧
      graphOf g.edges = .ok graph ∧
      r = reportOn c g source selection (declared ++ entered) graph := by
  rw [outcome] at ended
  obtain ⟨g, read, ended⟩ := Outcome.bind_ok ended
  obtain ⟨⟨source, mentions⟩, found, ended⟩ := Outcome.bind_ok ended
  change examined c k g source mentions = .ok r at ended
  rw [examined] at ended
  obtain ⟨selection, chosen, ended⟩ := Outcome.bind_ok ended
  obtain ⟨declared, collected, ended⟩ := Outcome.bind_ok ended
  obtain ⟨entered, parsed, ended⟩ := Outcome.bind_ok ended
  obtain ⟨graph, built, ended⟩ := Outcome.bind_ok ended
  exact ⟨g, source, mentions, selection, declared, entered, graph, read, found, chosen, collected,
    parsed, built, (Except.ok.inj ended).symm⟩

theorem mem_selected {g : CallGraph} {source : Source} {mentions : List Mention}
    {selection : EntryPoint.Selection} (read : CallGraph.ofValue callGraph = .ok g)
    (found : candidatesOf g given = .ok (source, mentions))
    (chosen : EntryPoint.selected c k ⟨.empty, 0⟩ mentions = .ok selection) {e : Text} :
    e ∈ selection.chosen ↔ ∃ m, Selects c k callGraph given m ∧ e = m.signature := by
  obtain ⟨signatures, texts, rfl⟩ := Outcome.map_ok chosen
  rw [EntryPoint.mem_foldl_consider]
  constructor
  · rintro (none | ⟨signature, member, m, parsed, entry, rfl⟩)
    · exact absurd none (NameSet.mem_empty e)
    · have mentioned := ((Mention.mem_texts texts).1 member).1
      have candidate : Candidate callGraph given m :=
        (mem_candidatesOf read found).1 ⟨signature, mentioned, parsed⟩
      exact ⟨m, ⟨candidate, (EntryPoint.holds_iff parsed).1 entry⟩, rfl⟩
  · rintro ⟨m, ⟨candidate, entry⟩, rfl⟩
    obtain ⟨signature, mentioned, parsed⟩ := (mem_candidatesOf read found).2 candidate
    have present : signature ≠ [] := by
      rintro rfl
      rw [parse_nil] at parsed
      cases parsed
    exact .inr ⟨signature, (Mention.mem_texts texts).2 ⟨mentioned, present⟩, m, parsed,
      (EntryPoint.holds_iff parsed).2 entry, rfl⟩

theorem mem_componentsOf {classes : List Text} {name : Text} {role : Role} :
    (name, role) ∈ componentsOf ((NameSet.ofList classes).toList.map fun name =>
      (name, c.roleIn name)) ↔ name ∈ classes ∧ role = c.roleIn name ∧ role ≠ .plain := by
  simp only [componentsOf, List.mem_filter, List.mem_map, NameSet.mem_toList, NameSet.mem_ofList,
    decide_eq_true_iff]
  constructor
  · rintro ⟨⟨other, member, same⟩, part⟩
    cases same
    exact ⟨member, rfl, part⟩
  · rintro ⟨member, rfl, part⟩
    exact ⟨⟨name, member, rfl⟩, part⟩

theorem pairwise_componentsOf (classes : NameSet) :
    (componentsOf (classes.toList.map fun name => (name, c.roleIn name))).Pairwise
      fun a b => a.1 < b.1 := by
  have mapped : (classes.toList.map fun name => (name, c.roleIn name)).Pairwise
      fun a b => a.1 < b.1 := List.pairwise_map.2 classes.ascending
  exact mapped.filter _

theorem parse_of_entryClasses {chosen : NameSet} {entered : List Text}
    (exactly : ∀ e, e ∈ chosen ↔ ∃ m, Selects c k callGraph given m ∧ e = m.signature)
    (parsed : entryClasses chosen = .ok entered) {m : Method}
    (selected : Selects c k callGraph given m) : Method.parse m.signature = .ok m := by
  -- Only a method with a class has a signature that can be read, so this one has a class.
  have member : m.signature ∈ chosen.toList := (exactly _).2 ⟨m, selected, rfl⟩
  obtain ⟨name, read⟩ := Outcome.exists_of_mapM parsed _ member
  obtain ⟨n, again, -⟩ := Outcome.map_ok read
  obtain ⟨signature, spelled⟩ := selected.1.exists_spelling
  exact Method.parse_signature_of_parse spelled (Method.declaring_ne_nil_of_parse again)

theorem mem_entryClasses {chosen : NameSet} {entered : List Text}
    (exactly : ∀ e, e ∈ chosen ↔ ∃ m, Selects c k callGraph given m ∧ e = m.signature)
    (parsed : entryClasses chosen = .ok entered) {name : Text} :
    name ∈ entered ↔ ∃ m, Selects c k callGraph given m ∧ name = m.declaring := by
  rw [Outcome.mem_mapM parsed]
  constructor
  · rintro ⟨e, member, read⟩
    obtain ⟨m, selected, rfl⟩ := (exactly e).1 member
    rw [parse_of_entryClasses exactly parsed selected] at read
    exact ⟨m, selected, (Except.ok.inj read).symm⟩
  · rintro ⟨m, selected, rfl⟩
    refine ⟨m.signature, (exactly _).2 ⟨m, selected, rfl⟩, ?_⟩
    rw [parse_of_entryClasses exactly parsed selected]
    rfl

/-- In whatever state of a session a report is returned, its entry points are those of the
selected candidates, and its components are the classes that it is about and that are not
plain, with the roles that the session gives them. -/
theorem report_exact (h : Hierarchy) (resolve : Text → Option Text) (degraded : Bool) (k : Catalog)
    (earlier : List Session.Request) (callGraph : Value) (given : Option Value) (r : Report)
    (returned : ((run (Session.ofHierarchy h resolve degraded k).classifier k callGraph
      given).run.run ((Session.ofHierarchy h resolve degraded k).after earlier {})).1 = .ok r) :
    let s := Session.ofHierarchy h resolve degraded k
    let role := s.classifier.roleIn
    r.entryPoints.toList.Pairwise (· < ·) ∧
    (∀ e, e ∈ r.entryPoints.toList ↔
      ∃ m, Selects s.classifier k callGraph given m ∧ e = m.signature) ∧
    (∀ m, Selects s.classifier k callGraph given m → Method.parse m.signature = .ok m) ∧
    r.components.Pairwise (·.1 < ·.1) ∧
    (∀ name part, (name, part) ∈ r.components ↔
      Concerns s.classifier k callGraph given name ∧ part = role name ∧ part ≠ .plain) ∧
    ∀ name, ((s.classifier.roleOf name).run (s.after earlier {})).1 = role name := by
  intro s role
  have sound : s.classifier.IsOver h := Session.isOver_ofHierarchy h resolve degraded k
  have fresh : State.Faithful h s.classifier {} := Session.faithful_start h s.classifier
  have right : (s.after earlier {}).Faithful h s.classifier :=
    (Session.after_steps sound earlier fresh).faithful fresh
  have ended : outcome s.classifier k callGraph given = .ok r :=
    (run_decides sound k callGraph given _ right).1.symm.trans returned
  obtain ⟨g, source, mentions, selection, declared, entered, graph, read, found, chosen, collected,
    parsed, built, rfl⟩ := exists_of_outcome ended
  have exactly (e : Text) := mem_selected (e := e) read found chosen
  refine ⟨selection.chosen.ascending, exactly, fun m => parse_of_entryClasses exactly parsed,
    pairwise_componentsOf _, fun name part => ?_,
    fun name => (Classifier.roleOf_settles sound name _ right).1⟩
  have concerned : name ∈ declared ++ entered ↔ Concerns s.classifier k callGraph given name := by
    rw [List.mem_append, mem_declaringClasses read collected, mem_entryClasses exactly parsed,
      Concerns]
  exact mem_componentsOf.trans (and_congr_left fun _ => concerned)

theorem report_exact_spelled :
    let k : Catalog := ⟨"one", [(.activity, .ofList ["void onStart()"])]⟩
    let s := Session.ofHierarchy ⟨[("a.B", .ofList ["android.app.Activity"])]⟩ some false k
    let earlier := [Session.Request.role "c.D", .entryMethod none]
    let callGraph := Value.record [("nodes", .list [
      .record [("class", .text "c.D"), ("method", .text " <a.B : void onStart( )>")],
      .null, .record [("method", .text "La/B;->onStart()V")]])]
    ∃ r, ((run s.classifier k callGraph none).run.run (s.after earlier {})).1 = .ok r ∧
      r.entryPoints.toList = [Text.of "<a.B: void onStart()>"] ∧
      (∃ m, Selects s.classifier k callGraph none m ∧
        Text.of "<a.B: void onStart()>" = m.signature) ∧
      (Text.of "c.D", Role.plain) ∉ r.components := by
  intro k s earlier callGraph
  have computed : ((run s.classifier k callGraph none).run.run (s.after earlier {})).1.toOption.map
      (·.entryPoints.toList) = some [Text.of "<a.B: void onStart()>"] := by
    decide +kernel
  obtain ⟨r, ended, entries⟩ := Option.map_eq_some_iff.1 computed
  have returned : ((run s.classifier k callGraph none).run.run (s.after earlier {})).1 = .ok r :=
    Outcome.eq_ok_of_toOption ended
  have stated := report_exact _ some false k earlier callGraph none r returned
  refine ⟨r, returned, entries, (stated.2.1 _).1 ?_, fun member => ?_⟩
  · rw [entries]
    exact List.mem_singleton_self _
  · exact ((stated.2.2.2.2.1 _ _).1 member).2.2 rfl

end Discovery

end DroidRoots
