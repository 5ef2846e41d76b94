import DroidRoots.Proofs.Inquiries

/-! The questions that a session puts to its oracle. A class is matched against the rules once,
when it is first classified, whatever comes of it; whether it is an application is asked anew each
time. Which classes those are can be told from the requests, also from those that fail. -/

namespace DroidRoots

namespace Classifier

/-- The position of the first rule that applies, counted from one; without one, the number of
rules. -/
def position (applies : Text → Bool) (rules : List (Role × Text)) : Nat :=
  match rules.findIdx? fun rule => applies rule.2 with
  | some i => i + 1
  | none => rules.length

theorem tried_eq_position (applies : Text → Bool) (rules : List (Role × Text)) :
    tried applies rules = position applies rules := by
  induction rules with
  | nil => rfl
  | cons rule rest ih =>
    rw [tried, ih, position, position, List.findIdx?_cons]
    by_cases here : applies rule.2 = true
    · simp [here]
    · cases rest.findIdx? fun rule => applies rule.2 <;> simp [here]

theorem cost_ofResolver (oracle : Option Oracle) (resolve : Text → Option Text)
    (names : List Text) (applications : Nat) :
    (names.map (ofResolver oracle resolve).questions).sum +
        applications * (ofResolver oracle resolve).toll =
      oracle.elim 0 fun oracle =>
        (names.map fun name => position (oracle.stores name) (rulesOf resolve)).sum +
        if (resolve Framework.applicationType).isSome then applications else 0 := by
  cases oracle with
  | none =>
    have matched : (ofResolver none resolve).questions = fun _ => 0 := rfl
    have asked : (ofResolver none resolve).toll = 0 := rfl
    rw [matched, asked]
    simp [List.map_const']
  | some oracle =>
    have each : (ofResolver (some oracle) resolve).questions =
        fun name => position (oracle.stores name) (rulesOf resolve) := by
      funext name
      exact tried_eq_position (oracle.stores name) (rulesOf resolve)
    rw [each]
    cases resolved : resolve Framework.applicationType <;> simp [toll, ofResolver, resolved]

end Classifier

namespace Session

def Request.asksApplication : Request → Bool
  | .isApplication _ => true
  | _ => false

variable {s : Session}

theorem applicationsAmong_inquiries (request : Request) :
    applicationsAmong (s.inquiries request) = if request.asksApplication then 1 else 0 := by
  cases request with
  | classify names => exact applicationsAmong_roles _
  | entrySignature signature =>
    rw [inquiries]
    cases Method.parse signature <;> rfl
  | entryMethod method => cases method <;> rfl
  | filter signatures => exact applicationsAmong_roles _
  | discover callGraph given => exact applicationsAmong_roles _
  | _ => rfl

theorem applicationsAmong_requests (requests : List Request) :
    applicationsAmong (requests.flatMap s.inquiries) = requests.countP Request.asksApplication := by
  induction requests with
  | nil => rfl
  | cons request rest ih =>
    have split : applicationsAmong (s.inquiries request ++ rest.flatMap s.inquiries) =
        applicationsAmong (s.inquiries request) + applicationsAmong (rest.flatMap s.inquiries) :=
      List.countP_append
    rw [List.flatMap_cons, split, ih, applicationsAmong_inquiries, List.countP_cons, Nat.add_comm]

theorem roleOf_run_classified (sound : s.classifier.IsOver s.hierarchy) (requests : List Request)
    {name : Text} (classified : name ∈ classesOf (requests.flatMap s.inquiries)) :
    (s.classifier.roleOf name).run (s.after requests {}) =
      (s.classifier.roleIn name, s.after requests {}) := by
  have kept : name ∈ (s.after requests {}).roles.map (·.1) := by
    rw [← List.mem_reverse, classes_after sound requests]
    exact classified
  cases known : Assoc.get? name (s.after requests {}).roles with
  | none => exact absurd kept (Assoc.get?_eq_none_iff.1 known)
  | some role =>
    have right := (faithful_after sound requests).roles _ (Assoc.mem_of_get? known)
    rw [Classifier.roleOf_run_known known, ← right]

/-- After any requests, also failed ones, as many roles are kept as there are distinct classes
that were classified. The oracle has been asked, for each of these classes once, up to the first
rule that applies to it or through all rules, and once more for each request about applications
if their base type can be resolved; without an oracle nothing is asked. -/
theorem query_accounting (s : Session) (oracle : Option Oracle) (resolve : Text → Option Text)
    (made : s.classifier = .ofResolver oracle resolve) (sound : s.classifier.IsOver s.hierarchy)
    (requests : List Request) :
    let reached := s.after requests {}
    let classified := classesOf (requests.flatMap s.inquiries)
    let calls := oracle.elim 0 fun oracle =>
      (classified.map fun name =>
        Classifier.position (oracle.stores name) (Classifier.rulesOf resolve)).sum +
      if (resolve Framework.applicationType).isSome then requests.countP Request.asksApplication
      else 0
    classified.Nodup ∧
    (∀ name, name ∈ classified ↔ ∃ request ∈ requests, .role name ∈ s.inquiries request) ∧
    ((s.answer .keptRoles).run.run reached).1 = .ok (.count classified.length) ∧
    ((s.answer .queries).run.run reached).1 = .ok (.count calls) ∧
    ∀ name ∈ classified, ((s.classifier.roleOf name).run reached).2 = reached := by
  intro reached classified calls
  have kept : reached.roles.length = classified.length := by
    have classes : (reached.roles.map (·.1)).reverse = classified := classes_after sound requests
    rw [← classes, List.length_reverse, List.length_map]
  have asked : reached.queries = calls := by
    have queries : reached.queries = (classified.map s.classifier.questions).sum +
        applicationsAmong (requests.flatMap s.inquiries) * s.classifier.toll :=
      congrArg Ledger.queries (ledger_after sound requests)
    rw [queries, applicationsAmong_requests, made]
    exact Classifier.cost_ofResolver oracle resolve classified _
  refine ⟨nodup_classesOf _, fun name => ?_, ?_, ?_, fun name member => ?_⟩
  · rw [mem_classesOf, List.mem_flatMap]
  · exact congrArg (fun count => Except.ok (Answer.count count)) kept
  · exact congrArg (fun count => Except.ok (Answer.count count)) asked
  · rw [roleOf_run_classified sound requests member]

/-- A filter that ends at a value that is no text, so that the last class is not classified, and
a discovery that ends at an edge after all its classes are: three classes and 2 + 11 + 11 + 1
questions. -/
theorem query_accounting_failures :
    let oracle := Oracle.relation fun child parent =>
      child = Text.of "a.B" && parent = Text.of "android.app.Service"
    let resolve (base : Text) : Option Text :=
      if base = "android.app.Activity" then none else some base
    let s : Session := ⟨⟨[]⟩, .ofResolver (some oracle) resolve, Catalog.builtin⟩
    let requests : List Request := [
      .filter (.list [.text "<a.B: void onStart()>", .nat 1, .text "<e.F: void onStart()>"]),
      .entryMethod none, .role "c.D", .isApplication "a.B",
      .discover (.record [
        ("nodes", .list [.record [("class", .text "g.H"), ("method", .text "<a.B: int f()>")]]),
        ("edges", .list [.record [("caller", .nat 1)]])]) none,
      .role "c.D"]
    s.classifier.IsOver s.hierarchy ∧
      classesOf (requests.flatMap s.inquiries) = [Text.of "a.B", Text.of "c.D", Text.of "g.H"] ∧
      ((s.answer .keptRoles).run.run (s.after requests {})).1 = .ok (.count 3) ∧
      ((s.answer .queries).run.run (s.after requests {})).1 = .ok (.count 25) := by
  intro oracle resolve s requests
  have sound : s.classifier.IsOver s.hierarchy := by
    intro other asked
    change some (Oracle.relation _) = some (.hierarchy other) at asked
    cases asked
  have classes : classesOf (requests.flatMap s.inquiries) =
      [Text.of "a.B", Text.of "c.D", Text.of "g.H"] := by
    decide +kernel
  obtain ⟨-, -, kept, asked, -⟩ := query_accounting s (some oracle) resolve rfl sound requests
  rw [classes] at kept asked
  refine ⟨sound, classes, kept, asked.trans ?_⟩
  exact congrArg (fun count => Except.ok (Answer.count count)) (by decide +kernel)

end Session

end DroidRoots
