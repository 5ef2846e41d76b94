import DroidRoots.Analysis

/-! The classifier gives each class a role: that of the first framework base type, in
order of precedence, that a value of the class can be stored as. Base types that cannot
be resolved are left out. Without an oracle every class is plain. Roles are kept, so
the oracle is asked about a class only once. -/

namespace DroidRoots

/-- What decides whether a value of one class can be stored as another. -/
inductive Oracle
  | hierarchy (h : Hierarchy)
  | relation (stores : Text → Text → Bool)

namespace Oracle

def stores : Oracle → Text → Text → Bool
  | .hierarchy h => h.stores
  | .relation stores => stores

def ask (kept : Closures) (child parent : Text) : Oracle → Bool × Closures
  | .hierarchy h => h.ask kept child parent
  | .relation stores => (stores child parent, kept)

end Oracle

structure Classifier where
  oracle : Option Oracle
  rules : List (Role × Text)
  application : Option Text

namespace Classifier

def rulesOf (resolve : Text → Option Text) : List (Role × Text) :=
  Framework.baseTypes.filterMap fun (role, base) => (resolve base).map (role, ·)

def ofResolver (oracle : Option Oracle) (resolve : Text → Option Text) : Classifier :=
  { oracle, rules := rulesOf resolve, application := resolve Framework.applicationType }

def omissions (resolve : Text → Option Text) : List Notice :=
  Framework.baseTypes.filterMap fun (role, base) =>
    if (resolve base).isNone then some (.ruleDisabled base role) else none

def degraded (c : Classifier) : Bool := c.oracle.isNone

def ask (oracle : Oracle) (child parent : Text) : StateM State Bool := fun s =>
  let (answer, closures) := oracle.ask s.closures child parent
  (answer, { s with closures, queries := s.queries + 1 })

def firstRole (oracle : Oracle) (name : Text) : List (Role × Text) → StateM State Role
  | [] => pure .plain
  | (role, base) :: rest => do
    if ← ask oracle name base then pure role else firstRole oracle name rest

def freshRole (c : Classifier) (name : Text) : StateM State Role :=
  match c.oracle with
  | none => do
    Analysis.note (.assumedPlain name)
    pure .plain
  | some oracle => firstRole oracle name c.rules

def roleOf (c : Classifier) (name : Text) : StateM State Role := do
  match Assoc.get? name (← get).roles with
  | some role => pure role
  | none =>
    let role ← c.freshRole name
    modify fun s => { s with roles := (name, role) :: s.roles }
    pure role

def isApplication (c : Classifier) (name : Text) : StateM State Bool :=
  match c.oracle, c.application with
  | some oracle, some application => ask oracle name application
  | _, _ => pure false

def classify (c : Classifier) (names : List Text) : StateM State (List (Text × Role)) :=
  names.eraseDups.mapM fun name => do
    let role ← c.roleOf name
    pure (name, role)

end Classifier

end DroidRoots
