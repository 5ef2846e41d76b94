import DroidRoots.Assoc
import DroidRoots.Fault
import DroidRoots.Framework
import DroidRoots.NameSet
import DroidRoots.Subsignature
import DroidRoots.Value.Show

/-! Catalogs: for each role the subsignatures of the callbacks, in canonical form. Only
roles that the framework drives have a table. -/

namespace DroidRoots

structure Catalog where
  version : Text
  tables : List (Role × NameSet)

namespace Catalog

def tableOf (subsignatures : List Text) : NameSet :=
  .ofList (subsignatures.map Subsignature.canonical)

def build (version : Text) (tables : List (Role × List Text)) : Except Fault Catalog :=
  match tables.find? fun entry => !entry.1.hasTable with
  | some entry => .error (.roleWithoutTable entry.1)
  | none => .ok { version, tables := tables.map fun entry => (entry.1, tableOf entry.2) }

def frameworkTables : List (Role × List Text) :=
  (Role.all.filter Role.hasTable).map fun role => (role, Framework.callbacks role)

def builtin : Catalog :=
  { version := "builtin"
    tables := frameworkTables.map fun entry => (entry.1, tableOf entry.2) }

theorem build_builtin : build "builtin" frameworkTables = .ok builtin := rfl

def methodsFor (c : Catalog) (role : Role) : NameSet := (Assoc.get? role c.tables).getD .empty

def contains (c : Catalog) (role : Role) (subsignature : Text) : Bool :=
  decide (Subsignature.canonical subsignature ∈ c.methodsFor role)

def merge (role : Role) (more : List Text) (tables : List (Role × List Text)) :
    List (Role × List Text) :=
  Assoc.put role ((Assoc.get? role tables).getD [] ++ more) tables

def roleNamed (name : Text) : Except Fault Role :=
  match Role.ofName? name with
  | some role => .ok role
  | none => .error (.unknownRole name)

def subsignaturesOf (knots : Knots) (name : Text) (listed : Value) : Except Fault (List Text) :=
  match knots.untie listed with
  | .list values => (values.filter Value.isPresent).mapM (Value.written knots)
  | _ => .error (.roleWithoutList name)

def addRoles (knots : Knots) : List (Role × List Text) → List (Scalar × Value) →
    Except Fault (List (Role × List Text))
  | tables, [] => .ok tables
  | tables, (key, listed) :: rest => do
    let name ← Value.written knots (.scalar key)
    let role ← roleNamed name
    let more ← subsignaturesOf knots name listed
    addRoles knots (merge role more tables) rest

/-- Tables given under names of roles; a role that is named again takes the later table. -/
def ofNamed (version : Text) (named : List (Text × List Text)) : Except Fault Catalog := do
  let tables ← named.foldlM (fun tables (name, subsignatures) => do
    let role ← roleNamed name
    return Assoc.put role subsignatures tables) []
  build version tables

/-- The roles of a document start from the framework's own tables if it says so; two
names of one role add to the same table. -/
def ofFields (knots : Knots) (fields : List (Scalar × Value)) : Except Fault Catalog :=
  let field (name : Text) : Value := Value.fieldD name fields .null
  if !(field "version").isPresent then .error .catalogWithoutVersion
  else match knots.untie (field "roles") with
    | .object (entry :: rest) => do
      let start := if (field "extend_defaults").isPresent then frameworkTables else []
      let tables ← addRoles knots start (entry :: rest)
      let version ← Value.written knots (field "version")
      build version tables
    | _ => .error .catalogWithoutRoles

def ofDocument (path : Text) (d : Document) : Except Fault Catalog :=
  match d.top with
  | .object fields => ofFields d.knots fields
  | _ => .error (.catalogNotMapping path)

end Catalog

end DroidRoots
