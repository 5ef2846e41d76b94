import DroidRoots.Proofs.AnalysisSteps
import DroidRoots.Proofs.Outcomes
import DroidRoots.Session

/-! Outcomes that do not depend on what is known already. A computation is settled if it
ends in the same way from every state whose knowledge is right and changes the state in
steps. All that a classifier is asked, and discovery itself, is settled. -/

namespace DroidRoots

variable {α β : Type} {h : Hierarchy} {c : Classifier}

def Settles (h : Hierarchy) (c : Classifier) (x : StateM State α) (value : α) : Prop :=
  ∀ s, s.Faithful h c → (x.run s).1 = value ∧ Steps h c s (x.run s).2

def Decides (h : Hierarchy) (c : Classifier) (x : Analysis α) (outcome : Except Fault α) : Prop :=
  Settles h c x.run outcome

namespace Settles

protected theorem pure (a : α) : Settles h c (pure a) a := fun _ _ => ⟨rfl, .refl⟩

protected theorem bind {x : StateM State α} {f : α → StateM State β} {a : α} {b : β}
    (first : Settles h c x a) (next : Settles h c (f a) b) : Settles h c (x >>= f) b := by
  intro s right
  obtain ⟨value, steps⟩ := first s right
  obtain ⟨result, more⟩ := next _ (steps.faithful right)
  rw [Analysis.state_bind_run, value]
  exact ⟨result, steps.trans more⟩

protected theorem mapM {f : α → StateM State β} {g : α → β}
    (each : ∀ a, Settles h c (f a) (g a)) (xs : List α) : Settles h c (xs.mapM f) (xs.map g) := by
  induction xs with
  | nil => exact .pure []
  | cons a rest ih =>
    rw [List.mapM_cons]
    exact (each a).bind (ih.bind (.pure _))

theorem note (count : Nat) : Settles h c (Analysis.note (.signaturesSkipped count)) () :=
  fun _ _ => ⟨rfl, .single (.skip count)⟩

end Settles

namespace Decides

theorem ofExcept (outcome : Except Fault α) : Decides h c (Analysis.ofExcept outcome) outcome := by
  cases outcome with
  | ok a => exact Settles.pure (Except.ok a)
  | error fault => exact Settles.pure (Except.error fault)

protected theorem pure (a : α) : Decides h c (pure a) (.ok a) := Settles.pure (Except.ok a)

theorem lift {x : StateM State α} {a : α} (settled : Settles h c x a) :
    Decides h c (liftM x : Analysis α) (.ok a) := by
  intro s right
  obtain ⟨value, steps⟩ := settled s right
  have whole : (liftM x : Analysis α).run.run s = (.ok (x.run s).1, (x.run s).2) := rfl
  rw [whole, value]
  exact ⟨rfl, steps⟩

protected theorem bind {x : Analysis α} {f : α → Analysis β} {outcome : Except Fault α}
    {next : α → Except Fault β} (first : Decides h c x outcome)
    (rest : ∀ a, Decides h c (f a) (next a)) : Decides h c (x >>= f) (outcome >>= next) := by
  rw [Decides, ExceptT.run_bind]
  cases outcome with
  | ok a => exact Settles.bind first (rest a)
  | error fault => exact Settles.bind first (Settles.pure (Except.error fault))

theorem lift_bind {x : StateM State α} {f : α → Analysis β} {a : α} {outcome : Except Fault β}
    (settled : Settles h c x a) (rest : Decides h c (f a) outcome) :
    Decides h c ((liftM x : Analysis α) >>= f) outcome := by
  rw [Decides, ExceptT.run_bind]
  exact Settles.bind (lift settled) rest

theorem inSpan {name : Text} {attributes : List (Text × Value)} {block : Analysis α}
    {outcome : Except Fault α} (inner : Decides h c block outcome) :
    Decides h c (Analysis.inSpan name attributes block) outcome := by
  intro s right
  let inside : State := { s with current := some name }
  have opened : Step h c s inside := .trace (some name) s.spans
  obtain ⟨value, steps⟩ := inner inside (opened.faithful right)
  exact ⟨value, (steps.head opened).tail (.trace s.current _)⟩

end Decides

namespace Classifier

theorem ask_run {oracle : Oracle} (sound : ∀ other, oracle = .hierarchy other → other = h)
    {s : State} (right : h.Faithful s.closures) (child parent : Text) :
    ∃ closures, h.Grows s.closures closures ∧ (ask oracle child parent).run s =
      (oracle.stores child parent, { s with closures, queries := s.queries + 1 }) := by
  cases oracle with
  | hierarchy other =>
    obtain rfl := sound other rfl
    refine ⟨_, Hierarchy.ask_grows other s.closures child parent, ?_⟩
    rw [Oracle.stores, ← Hierarchy.ask_fst right]
    rfl
  | relation stores => exact ⟨s.closures, .refl, rfl⟩

theorem firstRole_run {oracle : Oracle} (sound : ∀ other, oracle = .hierarchy other → other = h)
    {s : State} (right : h.Faithful s.closures) (name : Text) (rules : List (Role × Text)) :
    ∃ closures, h.Grows s.closures closures ∧ (firstRole oracle name rules).run s =
      ((rules.find? fun rule => oracle.stores name rule.2).elim .plain (·.1),
        { s with closures, queries := s.queries + tried (oracle.stores name) rules }) := by
  induction rules generalizing s with
  | nil => exact ⟨s.closures, .refl, rfl⟩
  | cons rule rest ih =>
    obtain ⟨closures, grown, asked⟩ := ask_run sound right name rule.2
    have unfolded : (firstRole oracle name (rule :: rest)).run s =
        (if ((ask oracle name rule.2).run s).1 then Pure.pure rule.1
          else firstRole oracle name rest : StateM State Role).run
          ((ask oracle name rule.2).run s).2 := rfl
    rw [unfolded, asked]
    by_cases applies : oracle.stores name rule.2 = true
    · refine ⟨closures, grown, ?_⟩
      simp only [applies, if_true, List.find?_cons, tried]
      rfl
    · obtain ⟨more, further, found⟩ := ih (s := { s with closures, queries := s.queries + 1 })
        (grown.faithful right)
      refine ⟨more, grown.trans further, ?_⟩
      simp only [applies, List.find?_cons, tried]
      rw [if_neg (by simp), found]
      simp [Nat.add_assoc, Nat.add_comm 1]

theorem freshRole_run (sound : c.IsOver h) {s : State} (right : h.Faithful s.closures)
    (name : Text) :
    ∃ closures, h.Grows s.closures closures ∧ (c.freshRole name).run s =
      (c.roleIn name, { s with
        closures
        queries := s.queries + c.questions name
        notices := s.notices ++ c.doubts name }) := by
  rw [freshRole, roleIn, questions, doubts, degraded]
  cases asked : c.oracle with
  | none => exact ⟨s.closures, .refl, rfl⟩
  | some oracle =>
    obtain ⟨closures, grown, found⟩ :=
      firstRole_run (fun other same => sound other (same ▸ asked)) right name c.rules
    refine ⟨closures, grown, ?_⟩
    simpa using found

theorem roleOf_run_known {s : State} {name : Text} {role : Role}
    (known : Assoc.get? name s.roles = some role) : (c.roleOf name).run s = (role, s) := by
  simp only [roleOf, StateT.run_bind, StateT.run_get, pure_bind, known]
  rfl

theorem roleOf_run_new {s : State} {name : Text} (new : Assoc.get? name s.roles = none) :
    (c.roleOf name).run s = (((c.freshRole name).run s).1, { ((c.freshRole name).run s).2 with
      roles := (name, ((c.freshRole name).run s).1) :: ((c.freshRole name).run s).2.roles }) := by
  simp only [roleOf, StateT.run_bind, StateT.run_get, pure_bind, new]
  rfl

theorem roleOf_settles (sound : c.IsOver h) (name : Text) :
    Settles h c (c.roleOf name) (c.roleIn name) := by
  intro s right
  cases known : Assoc.get? name s.roles with
  | some role =>
    rw [roleOf_run_known known]
    exact ⟨right.roles _ (Assoc.mem_of_get? known), .refl⟩
  | none =>
    obtain ⟨closures, grown, fresh⟩ := freshRole_run sound right.closures name
    rw [roleOf_run_new known, fresh]
    exact ⟨rfl, .single (.classify name grown known)⟩

def isApplicationIn (c : Classifier) (name : Text) : Bool :=
  match c.oracle, c.application with
  | some oracle, some application => oracle.stores name application
  | _, _ => false

theorem isApplication_settles (sound : c.IsOver h) (name : Text) :
    Settles h c (c.isApplication name) (c.isApplicationIn name) := by
  rw [isApplication, isApplicationIn]
  cases asked : c.oracle with
  | none => exact .pure false
  | some oracle =>
    cases c.application with
    | none => exact .pure false
    | some application =>
      intro s right
      obtain ⟨closures, grown, answered⟩ :=
        ask_run (fun other same => sound other (same ▸ asked)) right.closures name application
      rw [answered]
      exact ⟨rfl, .single (.ask grown)⟩

theorem roleEntry_settles (sound : c.IsOver h) (name : Text) :
    Settles h c (do
      let role ← c.roleOf name
      pure (name, role)) (name, c.roleIn name) :=
  (roleOf_settles sound name).bind (.pure _)

theorem classify_settles (sound : c.IsOver h) (names : List Text) :
    Settles h c (c.classify names) (names.eraseDups.map fun name => (name, c.roleIn name)) :=
  .mapM (roleEntry_settles sound) names.eraseDups

end Classifier

namespace EntryPoint

def holds (c : Classifier) (k : Catalog) (m : Method) : Bool :=
  (c.roleIn m.declaring).hasTable && k.contains (c.roleIn m.declaring) m.subsignature

def consider (c : Classifier) (k : Catalog) (found : Selection) (signature : Text) : Selection :=
  match Method.parse signature with
  | .error _ => { found with unparsed := found.unparsed + 1 }
  | .ok m => if holds c k m then { found with chosen := found.chosen.insert m.signature } else found

theorem isEntryPoint_settles (sound : c.IsOver h) (k : Catalog) (m : Method) :
    Settles h c (isEntryPoint c k m) (holds c k m) :=
  (Classifier.roleOf_settles sound m.declaring).bind (.pure _)

theorem isEntrySignature_decides (sound : c.IsOver h) (k : Catalog) (signature : Text) :
    Decides h c (isEntrySignature c k signature)
      (Method.parse signature >>= fun m => .ok (holds c k m)) :=
  Decides.bind (.ofExcept (Method.parse signature)) fun m => .lift (isEntryPoint_settles sound k m)

end EntryPoint

def Mention.texts (mentions : List Mention) : Except Fault (List Text) :=
  (mentions.mapM Mention.signature?).map (·.filterMap id)

theorem Mention.texts_cons (mention : Mention) (rest : List Mention) :
    texts (mention :: rest) =
      mention.signature? >>= fun first => (texts rest).map (first.toList ++ ·) := by
  rw [texts, texts, List.mapM_cons]
  cases mention.signature? with
  | error fault => rfl
  | ok first =>
    cases rest.mapM Mention.signature? with
    | error fault => rfl
    | ok others => cases first <;> rfl

namespace EntryPoint

def selected (c : Classifier) (k : Catalog) (found : Selection) (mentions : List Mention) :
    Except Fault Selection :=
  (Mention.texts mentions).map fun signatures => signatures.foldl (consider c k) found

theorem selected_cons (k : Catalog) (found : Selection) (mention : Mention) (rest : List Mention) :
    selected c k found (mention :: rest) = mention.signature? >>= fun first =>
      selected c k (first.toList.foldl (consider c k) found) rest := by
  rw [selected, Mention.texts_cons]
  cases mention.signature? with
  | error fault => rfl
  | ok first =>
    simp only [selected, bind, Except.bind]
    cases Mention.texts rest with
    | error fault => rfl
    | ok others => simp [Except.map, List.foldl_append]

theorem select_decides (sound : c.IsOver h) (k : Catalog) (found : Selection)
    (mentions : List Mention) :
    Decides h c (select c k found mentions) (selected c k found mentions) := by
  induction mentions generalizing found with
  | nil => exact .pure found
  | cons mention rest ih =>
    rw [select, selected_cons]
    refine Decides.bind (.ofExcept mention.signature?) fun first => ?_
    cases first with
    | none => exact ih found
    | some signature =>
      simp only [Option.toList, List.foldl_cons, List.foldl_nil, consider]
      cases Method.parse signature with
      | error fault => exact ih _
      | ok m =>
        refine Decides.lift_bind (isEntryPoint_settles sound k m) ?_
        by_cases entry : holds c k m = true
        · simp only [entry, if_true]
          exact ih _
        · simp only [entry]
          exact ih _

theorem selectFrom_decides (sound : c.IsOver h) (k : Catalog) (mentions : List Mention) :
    Decides h c (selectFrom c k mentions) (selected c k ⟨.empty, 0⟩ mentions) :=
  select_decides sound k _ mentions

def filtered (c : Classifier) (k : Catalog) (value : Value) : Except Fault NameSet :=
  match Mention.ofElements? value with
  | none => .error .expectedCollection
  | some mentions => do
    let selection ← selected c k ⟨.empty, 0⟩ mentions
    return selection.chosen

theorem filter_decides (sound : c.IsOver h) (k : Catalog) (value : Value) :
    Decides h c (filter c k value) (filtered c k value) := by
  rw [filter, filtered]
  cases Mention.ofElements? value with
  | none => exact .ofExcept (.error .expectedCollection)
  | some mentions => exact (selectFrom_decides sound k mentions).bind fun _ => .pure _

end EntryPoint

namespace Discovery

def reportOn (c : Classifier) (g : CallGraph) (source : Source) (selection : EntryPoint.Selection)
    (classes : List Text) (graph : Digraph) : Report where
  entryPoints := selection.chosen
  components := componentsOf ((NameSet.ofList classes).toList.map fun name => (name, c.roleIn name))
  reachable := graph.reachable selection.chosen.toList
  nodeCount := g.nodes.length
  edgeCount := g.edges.length
  unparsed := selection.unparsed
  source := source

def examined (c : Classifier) (k : Catalog) (g : CallGraph) (source : Source)
    (candidates : List Mention) : Except Fault Report := do
  let selection ← EntryPoint.selected c k ⟨.empty, 0⟩ candidates
  let declared ← declaringClasses g.nodes
  let entered ← entryClasses selection.chosen
  let graph ← graphOf g.edges
  return reportOn c g source selection (declared ++ entered) graph

/-- How discovery ends, whatever is known already. -/
def outcome (c : Classifier) (k : Catalog) (callGraph : Value) (given : Option Value) :
    Except Fault Report := do
  let g ← CallGraph.ofValue callGraph
  let (source, candidates) ← candidatesOf g given
  examined c k g source candidates

theorem examine_decides (sound : c.IsOver h) (k : Catalog) (g : CallGraph) (source : Source)
    (candidates : List Mention) :
    Decides h c (examine c k g source candidates) (examined c k g source candidates) := by
  refine (EntryPoint.selectFrom_decides sound k candidates).bind fun selection => ?_
  refine Decides.bind (.ofExcept (declaringClasses g.nodes)) fun declared => ?_
  refine Decides.bind (.ofExcept (entryClasses selection.chosen)) fun entered => ?_
  refine Decides.lift_bind (Classifier.classify_settles sound _) ?_
  rw [NameSet.eraseDups_toList]
  exact Decides.bind (.ofExcept (graphOf g.edges)) fun graph => .pure _

theorem traced_decides (sound : c.IsOver h) (k : Catalog) (g : CallGraph) (given : Option Value)
    (name : Text) (attributes : List (Text × Value)) :
    Decides h c (Analysis.inSpan name attributes do
      let (source, candidates) ← Analysis.ofExcept (candidatesOf g given)
      examine c k g source candidates) (do
      let (source, candidates) ← candidatesOf g given
      examined c k g source candidates) :=
  .inSpan (Decides.bind (.ofExcept (candidatesOf g given)) fun chosen =>
    examine_decides sound k g chosen.1 chosen.2)

theorem run_decides (sound : c.IsOver h) (k : Catalog) (callGraph : Value) (given : Option Value) :
    Decides h c (run c k callGraph given) (outcome c k callGraph given) := by
  refine Decides.bind (.ofExcept (CallGraph.ofValue callGraph)) fun g => ?_
  have noted (report : Report) : Decides h c (do
      if report.unparsed ≠ 0 then Analysis.note (.signaturesSkipped report.unparsed)
      return report) (.ok report) := by
    by_cases skipped : report.unparsed ≠ 0
    · rw [if_pos skipped]
      exact Decides.lift_bind (Settles.note report.unparsed) (.pure report)
    · rw [if_neg skipped]
      exact .pure report
  rw [← bind_pure (candidatesOf g given >>= fun chosen => examined c k g chosen.1 chosen.2)]
  exact (traced_decides sound k g given _ _).bind noted

end Discovery

end DroidRoots
