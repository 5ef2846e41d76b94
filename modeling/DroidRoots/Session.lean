import DroidRoots.Discovery
import DroidRoots.Hierarchy.Document

/-! Sessions: one hierarchy, one classifier and one catalog that answer a sequence of
questions. The state carries over from question to question, also from those that fail. -/

namespace DroidRoots

structure Session where
  hierarchy : Hierarchy
  classifier : Classifier
  catalog : Catalog

namespace Session

/-- How a session departs from a hierarchy that both resolves names and answers queries,
with the framework's own catalog. -/
structure Options where
  /-- The only names that can be resolved. -/
  known : Option (List Text) := none
  degraded : Bool := false
  catalog : Option (Text × List (Text × List Text)) := none

def resolver (h : Hierarchy) : Option (List Text) → Text → Option Text
  | none => h.resolve
  | some known => fun name => if name ∈ known then some name else none

def ofHierarchy (hierarchy : Hierarchy) (resolve : Text → Option Text) (degraded : Bool)
    (catalog : Catalog) : Session :=
  let oracle := if degraded then none else some (.hierarchy hierarchy)
  { hierarchy, classifier := Classifier.ofResolver oracle resolve, catalog }

def «open» (document : Value) (options : Options) : Except Fault Session := do
  let hierarchy ← Hierarchy.ofValue document
  let catalog ← match options.catalog with
    | none => .ok Catalog.builtin
    | some (version, named) => Catalog.ofNamed version named
  return ofHierarchy hierarchy (resolver hierarchy options.known) options.degraded catalog

def openingNotices (s : Session) (options : Options) : List Notice :=
  Classifier.omissions (resolver s.hierarchy options.known)

inductive Request
  | resolve (name : Text)
  | knows (name : Text)
  | size
  | stores (child parent : Text)
  | supertypes (name : Text)
  | role (name : Text)
  | isApplication (name : Text)
  | classify (names : List Text)
  | keptRoles
  | degraded
  | queries
  | entrySignature (signature : Text)
  | entryMethod (method : Option Method)
  | filter (signatures : Value)
  | discover (callGraph : Value) (given : Option Value)
  | methodsFor (role : Text)
  | contains (role subsignature : Text)

inductive Answer
  | name (name : Option Text)
  | flag (holds : Bool)
  | count (n : Nat)
  | names (names : NameSet)
  | role (role : Role)
  | roles (roles : List (Text × Role))
  | report (report : Report)

def stores (h : Hierarchy) (child parent : Text) : StateM State Bool := fun s =>
  let (answer, closures) := h.ask s.closures child parent
  (answer, { s with closures })

def supertypes (h : Hierarchy) (name : Text) : StateM State NameSet := fun s =>
  let (uppers, closures) := h.closure s.closures name
  (uppers, { s with closures })

def answer (s : Session) : Request → Analysis Answer
  | .resolve name => return .name (s.hierarchy.resolve name)
  | .knows name => return .flag (s.hierarchy.knows name)
  | .size => return .count s.hierarchy.size
  | .stores child parent => return .flag (← stores s.hierarchy child parent)
  | .supertypes name => return .names (← supertypes s.hierarchy name)
  | .role name => return .role (← s.classifier.roleOf name)
  | .isApplication name => return .flag (← s.classifier.isApplication name)
  | .classify names => return .roles (← s.classifier.classify names)
  | .keptRoles => return .count (← get).roles.length
  | .degraded => return .flag s.classifier.degraded
  | .queries => return .count (← get).queries
  | .entrySignature signature =>
    return .flag (← EntryPoint.isEntrySignature s.classifier s.catalog signature)
  | .entryMethod method =>
    return .flag (← EntryPoint.isEntryMethod s.classifier s.catalog method)
  | .filter signatures =>
    return .names (← EntryPoint.filter s.classifier s.catalog signatures)
  | .discover callGraph given =>
    return .report (← Discovery.run s.classifier s.catalog callGraph given)
  | .methodsFor role => do
    let role ← Analysis.ofExcept (Catalog.roleNamed role)
    return .names (s.catalog.methodsFor role)
  | .contains role subsignature => do
    let role ← Analysis.ofExcept (Catalog.roleNamed role)
    return .flag (s.catalog.contains role subsignature)

def after (s : Session) (requests : List Request) (start : State) : State :=
  requests.foldl (fun state request => ((s.answer request).run.run state).2) start

end Session

end DroidRoots
