import DroidRoots.Proofs.SettledOutcomes

/-! What a session answers does not depend on its history. Whatever was asked before, also
what failed, each question about classes, methods and call graphs is answered as in a new
session. All that is kept is what a new session would compute, and it is kept for good. -/

namespace DroidRoots.Session

def Request.isMeter : Request → Bool
  | .keptRoles | .queries => true
  | _ => false

theorem isOver_ofHierarchy (h : Hierarchy) (resolve : Text → Option Text) (degraded : Bool)
    (k : Catalog) :
    (ofHierarchy h resolve degraded k).classifier.IsOver h := by
  intro other asked
  cases degraded with
  | true => cases asked
  | false =>
    cases asked
    rfl

theorem faithful_start (h : Hierarchy) (c : Classifier) : State.Faithful h c {} where
  closures _ member := absurd member List.not_mem_nil
  roles _ member := absurd member List.not_mem_nil

variable {h : Hierarchy} {c : Classifier}

theorem stores_settles (child parent : Text) :
    Settles h c (stores h child parent) (h.stores child parent) :=
  fun s right => ⟨Hierarchy.ask_fst right.closures child parent,
    .single (.look (Hierarchy.ask_grows h s.closures child parent))⟩

theorem supertypes_settles (name : Text) : Settles h c (supertypes h name) (h.supertypes name) :=
  fun s right => ⟨Hierarchy.closure_fst right.closures name,
    .single (.look (Hierarchy.closure_grows h s.closures name))⟩

def outcome (s : Session) : Request → Except Fault Answer
  | .resolve name => .ok (.name (s.hierarchy.resolve name))
  | .knows name => .ok (.flag (s.hierarchy.knows name))
  | .size => .ok (.count s.hierarchy.size)
  | .stores child parent => .ok (.flag (s.hierarchy.stores child parent))
  | .supertypes name => .ok (.names (s.hierarchy.supertypes name))
  | .role name => .ok (.role (s.classifier.roleIn name))
  | .isApplication name => .ok (.flag (s.classifier.isApplicationIn name))
  | .classify names =>
    .ok (.roles (names.eraseDups.map fun name => (name, s.classifier.roleIn name)))
  | .keptRoles | .queries => .ok (.count 0)
  | .degraded => .ok (.flag s.classifier.degraded)
  | .entrySignature signature => do
    let m ← Method.parse signature
    return .flag (EntryPoint.holds s.classifier s.catalog m)
  | .entryMethod none => .error .noMethod
  | .entryMethod (some m) => .ok (.flag (EntryPoint.holds s.classifier s.catalog m))
  | .filter signatures => return .names (← EntryPoint.filtered s.classifier s.catalog signatures)
  | .discover callGraph given =>
    return .report (← Discovery.outcome s.classifier s.catalog callGraph given)
  | .methodsFor role => return .names (s.catalog.methodsFor (← Catalog.roleNamed role))
  | .contains role subsignature =>
    return .flag (s.catalog.contains (← Catalog.roleNamed role) subsignature)

variable {s : Session}

theorem answer_decides (sound : s.classifier.IsOver s.hierarchy) {request : Request}
    (plain : request.isMeter = false) :
    Decides s.hierarchy s.classifier (s.answer request) (s.outcome request) := by
  cases request with
  | resolve name => exact .pure _
  | knows name => exact .pure _
  | size => exact .pure _
  | stores child parent => exact .lift_bind (stores_settles child parent) (.pure _)
  | supertypes name => exact .lift_bind (supertypes_settles name) (.pure _)
  | role name => exact .lift_bind (Classifier.roleOf_settles sound name) (.pure _)
  | isApplication name => exact .lift_bind (Classifier.isApplication_settles sound name) (.pure _)
  | classify names => exact .lift_bind (Classifier.classify_settles sound names) (.pure _)
  | keptRoles => cases plain
  | degraded => exact .pure _
  | queries => cases plain
  | entrySignature signature =>
    have asked := EntryPoint.isEntrySignature_decides sound s.catalog signature
    have whole := asked.bind fun holds => Decides.pure (Answer.flag holds)
    rwa [bind_assoc] at whole
  | entryMethod method =>
    cases method with
    | none => exact Decides.bind (.ofExcept (.error .noMethod)) fun (_ : Bool) => .pure _
    | some m => exact .lift_bind (EntryPoint.isEntryPoint_settles sound s.catalog m) (.pure _)
  | filter signatures =>
    exact (EntryPoint.filter_decides sound s.catalog signatures).bind fun _ => .pure _
  | discover callGraph given =>
    exact (Discovery.run_decides sound s.catalog callGraph given).bind fun _ => .pure _
  | methodsFor role => exact Decides.bind (.ofExcept (Catalog.roleNamed role)) fun _ => .pure _
  | contains role subsignature =>
    exact Decides.bind (.ofExcept (Catalog.roleNamed role)) fun _ => .pure _

theorem exists_decides (sound : s.classifier.IsOver s.hierarchy) (request : Request)
    (plain : request.isMeter = false) :
    ∃ outcome, Decides s.hierarchy s.classifier (s.answer request) outcome :=
  ⟨_, answer_decides sound plain⟩

theorem answer_steps (sound : s.classifier.IsOver s.hierarchy) (request : Request) {state : State}
    (right : state.Faithful s.hierarchy s.classifier) :
    Steps s.hierarchy s.classifier state ((s.answer request).run.run state).2 := by
  cases counted : request.isMeter with
  | false =>
    exact (answer_decides sound counted state right).2
  | true =>
    cases request with
    | keptRoles => exact .refl
    | queries => exact .refl
    | _ => cases counted

theorem after_steps (sound : s.classifier.IsOver s.hierarchy) (requests : List Request)
    {state : State} (right : state.Faithful s.hierarchy s.classifier) :
    Steps s.hierarchy s.classifier state (s.after requests state) := by
  induction requests generalizing state with
  | nil => exact .refl
  | cons request rest ih =>
    have first := answer_steps sound request right
    exact first.trans (ih (first.faithful right))

theorem faithful_after (sound : s.classifier.IsOver s.hierarchy) (requests : List Request) :
    (s.after requests {}).Faithful s.hierarchy s.classifier := by
  have fresh := faithful_start s.hierarchy s.classifier
  exact (after_steps sound requests fresh).faithful fresh

theorem answer_after (sound : s.classifier.IsOver s.hierarchy) {request : Request}
    (plain : request.isMeter = false) (earlier later : List Request) :
    ((s.answer request).run.run (s.after earlier {})).1 =
      ((s.answer request).run.run (s.after later {})).1 := by
  have decided := answer_decides sound plain
  rw [(decided _ (faithful_after sound earlier)).1, (decided _ (faithful_after sound later)).1]

theorem outcome_of_discover (sound : s.classifier.IsOver s.hierarchy) (requests : List Request)
    {callGraph : Value} {given : Option Value} {r : Report} {final : State}
    (returned : (s.answer (.discover callGraph given)).run.run (s.after requests {}) =
      (.ok (.report r), final)) :
    Discovery.outcome s.classifier s.catalog callGraph given = .ok r := by
  have question : (Request.discover callGraph given).isMeter = false := rfl
  have ended := (answer_decides sound question _ (faithful_after sound requests)).1
  rw [returned, outcome] at ended
  obtain ⟨report, found, same⟩ := Outcome.bind_ok ended.symm
  rw [found, Answer.report.inj (Except.ok.inj same)]

theorem roleOf_after (sound : s.classifier.IsOver s.hierarchy) (requests : List Request)
    (name : Text) :
    ((s.classifier.roleOf name).run (s.after requests {})).1 = s.classifier.roleIn name :=
  (Classifier.roleOf_settles sound name _ (faithful_after sound requests)).1

theorem after_append (s : Session) (earlier later : List Request) (state : State) :
    s.after (earlier ++ later) state = s.after later (s.after earlier state) :=
  List.foldl_append

/-- After any requests, also failed ones, each further one ends as in a new session. What is
kept is what a new session computes, and later requests leave it as it is. -/
theorem history_independence (h : Hierarchy) (resolve : Text → Option Text) (degraded : Bool)
    (k : Catalog) (earlier later : List Request) (request : Request)
    (plain : request.isMeter = false) :
    let s := ofHierarchy h resolve degraded k
    let reached := s.after earlier {}
    ((s.answer request).run.run reached).1 = ((s.answer request).run.run {}).1 ∧
    (∀ e ∈ reached.roles, e.2 = ((s.classifier.roleOf e.1).run {}).1) ∧
    (∀ e ∈ reached.closures, e.2 = ((supertypes h e.1).run {}).1) ∧
    (∀ name role, Assoc.get? name reached.roles = some role →
      Assoc.get? name (s.after (earlier ++ later) {}).roles = some role) ∧
    ∀ name uppers, Assoc.get? name reached.closures = some uppers →
      Assoc.get? name (s.after (earlier ++ later) {}).closures = some uppers := by
  intro s reached
  have sound : s.classifier.IsOver h := isOver_ofHierarchy h resolve degraded k
  have fresh : State.Faithful h s.classifier {} := faithful_start h s.classifier
  have right : reached.Faithful h s.classifier := (after_steps sound earlier fresh).faithful fresh
  have onward : Steps h s.classifier reached (s.after (earlier ++ later) {}) := by
    rw [after_append]
    exact after_steps sound later right
  obtain ⟨outcome, decided⟩ := exists_decides (s := s) sound request plain
  refine ⟨?_, fun e member => ?_, fun e member => ?_, fun name role => onward.get?_roles,
    fun name uppers => onward.get?_closures⟩
  · rw [(decided reached right).1, (decided {} fresh).1]
  · rw [(Classifier.roleOf_settles sound e.1 {} fresh).1]
    exact right.roles e member
  · rw [(supertypes_settles (c := s.classifier) e.1 {} fresh).1]
    exact right.closures e member

theorem history_independence_discover :
    let s := ofHierarchy ⟨[("a.B", .ofList ["android.app.Activity"])]⟩ some false Catalog.builtin
    let graph := Value.record [
      ("nodes", .list [.record [("method", .text "<a.B: void onStart()>")]])]
    (Session.Request.discover graph none).isMeter = false ∧
      ((s.answer (.discover graph none)).run.run
        (s.after [.discover graph none, .entryMethod none, .supertypes "a.B"] {})).1 =
      ((s.answer (.discover graph none)).run.run {}).1 :=
  ⟨rfl, (history_independence _ some false Catalog.builtin _ [] _ rfl).1⟩

end DroidRoots.Session
