import DroidRoots.Proofs.Ledger
import DroidRoots.Proofs.SessionHistory

/-! The inquiries behind each request. Which classes an operation classifies, and in which order,
can be told from what it is given: candidates are classified up to the first that is no text,
and if discovery gets as far as its report, the classes of its nodes follow in ascending order.
The accounts of a session are those of the inquiries that its requests make. -/

namespace DroidRoots

variable {α β : Type} {h : Hierarchy} {c : Classifier}

def listFrom (outcome : Except Fault α) (list : α → List β) : List β :=
  match outcome with
  | .ok a => list a
  | .error _ => []

theorem listFrom_nil (outcome : Except Fault α) :
    listFrom outcome (fun _ => ([] : List β)) = [] := by
  cases outcome <;> rfl

theorem listFrom_bind {γ : Type} (outcome : Except Fault α) (f : α → Except Fault β)
    (list : β → List γ) :
    listFrom (outcome >>= f) list = listFrom outcome fun a => listFrom (f a) list := by
  cases outcome <;> rfl

theorem map_listFrom {γ : Type} (outcome : Except Fault α) (list : α → List β) (f : β → γ) :
    (listFrom outcome list).map f = listFrom outcome fun a => (list a).map f := by
  cases outcome <;> rfl

def Records (h : Hierarchy) (c : Classifier) (x : StateM State α) (inquiries : List Inquiry) :
    Prop :=
  ∀ s, s.Faithful h c → (x.run s).2.ledger = s.ledger.enterAll c inquiries

namespace Records

protected theorem pure (a : α) : Records h c (pure a) [] := fun _ _ => rfl

protected theorem bind {x : StateM State α} {f : α → StateM State β} {a : α}
    {earlier later : List Inquiry} (settled : Settles h c x a) (first : Records h c x earlier)
    (next : Records h c (f a) later) : Records h c (x >>= f) (earlier ++ later) := by
  intro s right
  obtain ⟨value, steps⟩ := settled s right
  rw [Analysis.state_bind_run, value, next _ (steps.faithful right), first s right,
    Ledger.enterAll_append]

protected theorem mapM {f : α → StateM State β} {g : α → β} {inquiries : α → List Inquiry}
    (settled : ∀ a, Settles h c (f a) (g a)) (each : ∀ a, Records h c (f a) (inquiries a))
    (xs : List α) : Records h c (xs.mapM f) (xs.flatMap inquiries) := by
  induction xs with
  | nil => exact .pure []
  | cons a rest ih =>
    rw [List.mapM_cons, List.flatMap_cons]
    have later : Records h c (do
        let results ← rest.mapM f
        pure (g a :: results)) (rest.flatMap inquiries ++ []) :=
      .bind (.mapM settled rest) ih (.pure _)
    rw [List.append_nil] at later
    exact .bind (settled a) (each a) later

theorem note (count : Nat) : Records h c (Analysis.note (.signaturesSkipped count)) [] := by
  intro s _
  have silent : (s.notices ++ [Notice.signaturesSkipped count]).filter Notice.isWarning =
      s.notices.filter Notice.isWarning := by
    simp [Notice.isWarning]
  change State.ledger { s with notices := s.notices ++ [.signaturesSkipped count] } = s.ledger
  rw [State.ledger, silent, State.ledger]

theorem ofExcept (outcome : Except Fault α) :
    Records h c (Analysis.ofExcept outcome).run [] := by
  cases outcome with
  | ok a => exact Records.pure (Except.ok a)
  | error fault => exact Records.pure (Except.error fault)

theorem lift {x : StateM State α} {inquiries : List Inquiry} (recorded : Records h c x inquiries) :
    Records h c (liftM x : Analysis α).run inquiries := recorded

theorem bind_of {x : Analysis α} {f : α → Analysis β} {outcome : Except Fault α}
    {earlier : List Inquiry} {later : α → List Inquiry} (decided : Decides h c x outcome)
    (first : Records h c x.run earlier) (next : ∀ a, Records h c (f a).run (later a)) :
    Records h c (x >>= f).run (earlier ++ listFrom outcome later) := by
  rw [ExceptT.run_bind]
  cases outcome with
  | ok a => exact Records.bind decided first (next a)
  | error fault => exact Records.bind decided first (Records.pure (Except.error fault))

theorem ofExcept_bind {f : α → Analysis β} {outcome : Except Fault α} {later : α → List Inquiry}
    (next : ∀ a, Records h c (f a).run (later a)) :
    Records h c (Analysis.ofExcept outcome >>= f).run (listFrom outcome later) :=
  bind_of (.ofExcept outcome) (ofExcept outcome) next

theorem bind_silent {x : Analysis α} {f : α → Analysis β} {outcome : Except Fault α}
    {inquiries : List Inquiry} (decided : Decides h c x outcome)
    (first : Records h c x.run inquiries) (next : ∀ a, Records h c (f a).run []) :
    Records h c (x >>= f).run inquiries := by
  have whole := bind_of decided first next
  rwa [listFrom_nil, List.append_nil] at whole

theorem lift_silent {x : StateM State α} {f : α → Analysis β} {a : α} {inquiries : List Inquiry}
    (settled : Settles h c x a) (first : Records h c x inquiries)
    (next : ∀ a, Records h c (f a).run []) :
    Records h c ((liftM x : Analysis α) >>= f).run inquiries :=
  bind_silent (.lift settled) first.lift next

theorem ofExcept_silent {f : α → Analysis β} (outcome : Except Fault α)
    (next : ∀ a, Records h c (f a).run []) :
    Records h c (Analysis.ofExcept outcome >>= f).run [] :=
  bind_silent (.ofExcept outcome) (ofExcept outcome) next

theorem inSpan {name : Text} {attributes : List (Text × Value)} {block : Analysis α}
    {inquiries : List Inquiry} (inner : Records h c block.run inquiries) :
    Records h c (Analysis.inSpan name attributes block).run inquiries := by
  intro s right
  let inside : State := { s with current := some name }
  have opened : Step h c s inside := .trace (some name) s.spans
  exact inner inside (opened.faithful right)

end Records

namespace Classifier

theorem warnings_doubts (c : Classifier) (name : Text) :
    (c.doubts name).filter Notice.isWarning = c.doubts name := by
  rw [doubts]
  split <;> rfl

theorem roleOf_records (sound : c.IsOver h) (name : Text) :
    Records h c (c.roleOf name) [.role name] := by
  intro s right
  have listed : name ∈ s.ledger.classes ↔ name ∈ s.roles.map (·.1) := List.mem_reverse
  cases known : Assoc.get? name s.roles with
  | some role =>
    have old : name ∈ s.roles.map (·.1) := List.mem_map.2 ⟨_, Assoc.mem_of_get? known, rfl⟩
    rw [roleOf_run_known known]
    simp [Ledger.enterAll, Ledger.enter, listed.2 old]
  | none =>
    have new : name ∉ s.roles.map (·.1) := Assoc.get?_eq_none_iff.1 known
    obtain ⟨closures, grown, fresh⟩ := freshRole_run sound right.closures name
    rw [roleOf_run_new known, fresh]
    simp only [Ledger.enterAll, List.foldl_cons, List.foldl_nil, Ledger.enter, listed, new,
      if_false]
    simp [State.ledger, warnings_doubts]

theorem isApplication_records (sound : c.IsOver h) (name : Text) :
    Records h c (c.isApplication name) [.application name] := by
  intro s right
  change _ = { s.ledger with queries := s.queries + c.toll }
  rw [isApplication, toll]
  cases asked : c.oracle with
  | none => rfl
  | some oracle =>
    cases c.application with
    | none => rfl
    | some application =>
      obtain ⟨closures, grown, answered⟩ :=
        ask_run (fun other same => sound other (same ▸ asked)) right.closures name application
      rw [answered]
      rfl

theorem classify_records (sound : c.IsOver h) (names : List Text) :
    Records h c (c.classify names) (names.eraseDups.map .role) := by
  have each (name : Text) : Records h c (do
      let role ← c.roleOf name
      pure (name, role)) [.role name] :=
    .bind (roleOf_settles sound name) (roleOf_records sound name) (.pure _)
  rw [List.map_eq_flatMap]
  exact .mapM (roleEntry_settles sound) each names.eraseDups

end Classifier

def Mention.method? : Mention → Option Method
  | .text signature => (Method.parse signature).toOption
  | .vacant | .foreign => none

namespace EntryPoint

/-- The classes of the methods that are looked at: those that can be read, in order, up to the
first mention that is no text. -/
def considered (mentions : List Mention) : List Text :=
  ((mentions.takeWhile (· ≠ .foreign)).filterMap Mention.method?).map (·.declaring)

theorem considered_text (signature : Text) (rest : List Mention) :
    considered (.text signature :: rest) =
      match Method.parse signature with
      | .error _ => considered rest
      | .ok m => m.declaring :: considered rest := by
  rw [considered, List.takeWhile_cons_of_pos (by simp)]
  cases parsed : Method.parse signature <;>
    simp [considered, Mention.method?, parsed, Except.toOption]

theorem isEntryPoint_records (sound : c.IsOver h) (k : Catalog) (m : Method) :
    Records h c (isEntryPoint c k m) [.role m.declaring] :=
  .bind (Classifier.roleOf_settles sound m.declaring) (Classifier.roleOf_records sound m.declaring)
    (.pure _)

theorem isEntrySignature_records (sound : c.IsOver h) (k : Catalog) (signature : Text) :
    Records h c (isEntrySignature c k signature).run
      (listFrom (Method.parse signature) fun m => [.role m.declaring]) :=
  .ofExcept_bind fun m => (isEntryPoint_records sound k m).lift

theorem select_records (sound : c.IsOver h) (k : Catalog) (found : Selection)
    (mentions : List Mention) :
    Records h c (select c k found mentions).run ((considered mentions).map .role) := by
  induction mentions generalizing found with
  | nil => exact .pure (Except.ok found)
  | cons mention rest ih =>
    rw [select]
    cases mention with
    | vacant => exact ih found
    | foreign => exact .ofExcept (.error Fault.expectedText)
    | text signature =>
      by_cases empty : signature = []
      · subst empty
        exact ih found
      · have present : (Mention.text signature).signature? = .ok (some signature) := by
          simp [Mention.signature?, empty]
        rw [present, considered_text]
        change Records h c (match Method.parse signature with
          | .error _ => select c k { found with unparsed := found.unparsed + 1 } rest
          | .ok m => do
            if ← isEntryPoint c k m then
              select c k { found with chosen := found.chosen.insert m.signature } rest
            else select c k found rest).run _
        cases Method.parse signature with
        | error fault => exact ih _
        | ok m =>
          let chosen := found.chosen.insert m.signature
          have either (entry : Bool) : Records h c
              (if entry then select c k { found with chosen } rest
                else select c k found rest).run ((considered rest).map .role) := by
            cases entry <;> exact ih _
          have tested := Decides.lift (isEntryPoint_settles sound k m)
          have whole := Records.bind_of tested (isEntryPoint_records sound k m).lift either
          exact whole

def filterClasses (value : Value) : List Text :=
  ((Mention.ofElements? value).map considered).getD []

theorem filter_records (sound : c.IsOver h) (k : Catalog) (value : Value) :
    Records h c (filter c k value).run ((filterClasses value).map .role) := by
  rw [filter, filterClasses]
  cases Mention.ofElements? value with
  | none => exact .pure (Except.error Fault.expectedCollection)
  | some mentions =>
    exact .bind_silent (selectFrom_decides sound k mentions)
      (select_records sound k _ mentions) fun selection => .pure (Except.ok selection.chosen)

end EntryPoint

namespace Discovery

def concerned (c : Classifier) (k : Catalog) (g : CallGraph) (candidates : List Mention) :
    Except Fault NameSet := do
  let selection ← EntryPoint.selected c k ⟨.empty, 0⟩ candidates
  let declared ← declaringClasses g.nodes
  let entered ← entryClasses selection.chosen
  return .ofList (declared ++ entered)

def examineClasses (c : Classifier) (k : Catalog) (g : CallGraph) (candidates : List Mention) :
    List Text :=
  EntryPoint.considered candidates ++ listFrom (concerned c k g candidates) (·.toList)

def runClasses (c : Classifier) (k : Catalog) (callGraph : Value) (given : Option Value) :
    List Text :=
  listFrom (CallGraph.ofValue callGraph) fun g =>
    listFrom (candidatesOf g given) fun chosen => examineClasses c k g chosen.2

theorem examine_records (sound : c.IsOver h) (k : Catalog) (g : CallGraph) (source : Source)
    (candidates : List Mention) :
    Records h c (examine c k g source candidates).run
      ((examineClasses c k g candidates).map .role) := by
  have selecting := EntryPoint.select_records sound k ⟨.empty, 0⟩ candidates
  simp only [examineClasses, concerned, List.map_append, map_listFrom, listFrom_bind]
  refine .bind_of (EntryPoint.selectFrom_decides sound k candidates) selecting fun selection => ?_
  refine .ofExcept_bind fun declared => .ofExcept_bind fun entered => ?_
  have classified := Classifier.classify_records sound (NameSet.ofList (declared ++ entered)).toList
  rw [NameSet.eraseDups_toList] at classified
  exact .lift_silent (Classifier.classify_settles sound _) classified fun roles =>
    .ofExcept_silent (graphOf g.edges) fun graph => .pure _

theorem run_records (sound : c.IsOver h) (k : Catalog) (callGraph : Value) (given : Option Value) :
    Records h c (run c k callGraph given).run ((runClasses c k callGraph given).map .role) := by
  rw [runClasses, map_listFrom]
  refine .ofExcept_bind fun g => ?_
  have examining : Records h c (Analysis.ofExcept (candidatesOf g given) >>= fun chosen =>
      examine c k g chosen.1 chosen.2).run
      (listFrom (candidatesOf g given) fun chosen => (examineClasses c k g chosen.2).map .role) :=
    .ofExcept_bind fun chosen => examine_records sound k g chosen.1 chosen.2
  rw [map_listFrom]
  refine .bind_silent (traced_decides sound k g given _ _) examining.inSpan fun report => ?_
  by_cases skipped : report.unparsed ≠ 0
  · rw [if_pos skipped]
    exact .lift_silent (.note report.unparsed) (.note report.unparsed) fun _ => .pure _
  · rw [if_neg skipped]
    exact .pure _

end Discovery

namespace Session

def inquiries (s : Session) : Request → List Inquiry
  | .role name => [.role name]
  | .isApplication name => [.application name]
  | .classify names => names.eraseDups.map .role
  | .entrySignature signature =>
    listFrom (Method.parse signature) fun m => [.role m.declaring]
  | .entryMethod (some m) => [.role m.declaring]
  | .filter signatures => (EntryPoint.filterClasses signatures).map .role
  | .discover callGraph given =>
    (Discovery.runClasses s.classifier s.catalog callGraph given).map .role
  | .resolve _ | .knows _ | .size | .stores _ _ | .supertypes _ | .keptRoles | .degraded
  | .queries | .entryMethod none | .methodsFor _ | .contains _ _ => []

variable {s : Session}

theorem stores_records (child parent : Text) : Records h c (stores h child parent) [] :=
  fun _ _ => rfl

theorem supertypes_records (name : Text) : Records h c (supertypes h name) [] := fun _ _ => rfl

theorem answer_records (sound : s.classifier.IsOver s.hierarchy) (request : Request) :
    Records s.hierarchy s.classifier (s.answer request).run (s.inquiries request) := by
  cases request with
  | resolve name => exact .pure _
  | knows name => exact .pure _
  | size => exact .pure _
  | stores child parent =>
    exact .lift_silent (stores_settles child parent) (stores_records child parent) fun _ => .pure _
  | supertypes name =>
    exact .lift_silent (supertypes_settles name) (supertypes_records name) fun _ => .pure _
  | role name =>
    exact .lift_silent (Classifier.roleOf_settles sound name)
      (Classifier.roleOf_records sound name) fun _ => .pure _
  | isApplication name =>
    exact .lift_silent (Classifier.isApplication_settles sound name)
      (Classifier.isApplication_records sound name) fun _ => .pure _
  | classify names =>
    exact .lift_silent (Classifier.classify_settles sound names)
      (Classifier.classify_records sound names) fun _ => .pure _
  | keptRoles => exact fun _ _ => rfl
  | degraded => exact .pure _
  | queries => exact fun _ _ => rfl
  | entrySignature signature =>
    exact .bind_silent (EntryPoint.isEntrySignature_decides sound s.catalog signature)
      (EntryPoint.isEntrySignature_records sound s.catalog signature) fun _ => .pure _
  | entryMethod method =>
    cases method with
    | none => exact .ofExcept_silent (.error .noMethod) fun (_ : Bool) => .pure _
    | some m =>
      exact .lift_silent (EntryPoint.isEntryPoint_settles sound s.catalog m)
        (EntryPoint.isEntryPoint_records sound s.catalog m) fun _ => .pure _
  | filter signatures =>
    exact .bind_silent (EntryPoint.filter_decides sound s.catalog signatures)
      (EntryPoint.filter_records sound s.catalog signatures) fun _ => .pure _
  | discover callGraph given =>
    exact .bind_silent (Discovery.run_decides sound s.catalog callGraph given)
      (Discovery.run_records sound s.catalog callGraph given) fun _ => .pure _
  | methodsFor role => exact .ofExcept_silent (Catalog.roleNamed role) fun _ => .pure _
  | contains role subsignature =>
    exact .ofExcept_silent (Catalog.roleNamed role) fun _ => .pure _

theorem after_ledger (sound : s.classifier.IsOver s.hierarchy) (requests : List Request)
    {state : State} (right : state.Faithful s.hierarchy s.classifier) :
    (s.after requests state).ledger =
      state.ledger.enterAll s.classifier (requests.flatMap s.inquiries) := by
  -- each request leaves right knowledge behind, from which the next one makes its inquiries
  induction requests generalizing state with
  | nil => rfl
  | cons request rest ih =>
    have first := answer_records sound request state right
    have onward := ih ((answer_steps sound request right).faithful right)
    rw [List.flatMap_cons, Ledger.enterAll_append, ← first]
    exact onward

theorem ledger_after (sound : s.classifier.IsOver s.hierarchy) (requests : List Request) :
    let inquiries := requests.flatMap s.inquiries
    let classified := classesOf inquiries
    (s.after requests {}).ledger =
      { classes := classified
        queries := (classified.map s.classifier.questions).sum +
          applicationsAmong inquiries * s.classifier.toll
        warnings := classified.flatMap s.classifier.doubts } := by
  intro inquiries classified
  have accounts := after_ledger sound requests (faithful_start s.hierarchy s.classifier)
  rw [Ledger.enterAll_eq] at accounts
  simpa [State.ledger, freshNames_start, inquiries, classified, classesOf] using accounts

theorem classes_after (sound : s.classifier.IsOver s.hierarchy) (requests : List Request) :
    ((s.after requests {}).roles.map (·.1)).reverse = classesOf (requests.flatMap s.inquiries) :=
  congrArg Ledger.classes (ledger_after sound requests)

end Session

end DroidRoots
