import DroidRoots.Proofs.Outcomes
import DroidRoots.Proofs.SignatureRoundTrip
import DroidRoots.Run

/-! What catalogs are supplied with and what their tables hold. Given tables, the framework's own
ones and files all end in tables of canonical subsignatures, and only roles that the framework
drives have one. So a method is an entry point exactly if its subsignature was supplied, in
whatever spelling, for the role of its class. -/

namespace DroidRoots

namespace Catalog

def rows (role : Role) (tables : List (Role × List Text)) : List Text :=
  (Assoc.get? role tables).getD []

theorem rows_merge (role other : Role) (more : List Text) (tables : List (Role × List Text)) :
    rows other (merge role more tables) =
      if role = other then rows other tables ++ more else rows other tables := by
  rw [rows, merge, Assoc.get?_put]
  by_cases same : role = other
  · subst same
    simp [rows]
  · simp [rows, same]

theorem rows_frameworkTables (role : Role) :
    rows role frameworkTables = Framework.callbacks role := by
  cases role <;> rfl

theorem rows_of_not_hasTable {tables : List (Role × List Text)}
    (driven : ∀ entry ∈ tables, entry.1.hasTable = true) {role : Role}
    (idle : role.hasTable = false) : rows role tables = [] := by
  rw [rows]
  cases found : Assoc.get? role tables with
  | none => rfl
  | some given =>
    have own := driven _ (Assoc.mem_of_get? found)
    rw [idle] at own
    cases own

theorem get?_map_tableOf (role : Role) (tables : List (Role × List Text)) :
    Assoc.get? role (tables.map fun entry => (entry.1, tableOf entry.2)) =
      (Assoc.get? role tables).map tableOf := by
  induction tables with
  | nil => rfl
  | cons entry rest ih =>
    rw [List.map_cons, Assoc.get?_cons, Assoc.get?_cons, ih]
    split <;> rfl

structure IsProper (k : Catalog) : Prop where
  driven : ∀ entry ∈ k.tables, entry.1.hasTable = true
  canonical : ∀ entry ∈ k.tables, ∀ e ∈ entry.2, Subsignature.canonical e = e

section Build
variable {version : Text} {tables : List (Role × List Text)} {k : Catalog}

theorem driven_of_build (made : build version tables = .ok k) :
    ∀ entry ∈ tables, entry.1.hasTable = true := by
  rw [build] at made
  split at made
  · cases made
  · rename_i none
    intro entry member
    simpa using List.find?_eq_none.1 none entry member

theorem tables_of_build (made : build version tables = .ok k) :
    k.tables = tables.map fun entry => (entry.1, tableOf entry.2) := by
  rw [build] at made
  split at made
  · cases made
  · cases made
    rfl

theorem mem_tableOf {subsignatures : List Text} {e : Text} :
    e ∈ tableOf subsignatures ↔ ∃ given ∈ subsignatures, Subsignature.canonical given = e := by
  rw [tableOf, NameSet.mem_ofList, List.mem_map]

theorem isProper_of_build (made : build version tables = .ok k) : k.IsProper where
  driven entry member := by
    rw [tables_of_build made] at member
    obtain ⟨given, own, rfl⟩ := List.mem_map.1 member
    exact driven_of_build made given own
  canonical entry member e held := by
    rw [tables_of_build made] at member
    obtain ⟨given, -, rfl⟩ := List.mem_map.1 member
    obtain ⟨spelling, -, rfl⟩ := mem_tableOf.1 held
    exact Subsignature.canonical_canonical spelling

theorem mem_methodsFor (made : build version tables = .ok k) {role : Role} {e : Text} :
    e ∈ k.methodsFor role ↔ ∃ given ∈ rows role tables, Subsignature.canonical given = e := by
  rw [methodsFor, tables_of_build made, get?_map_tableOf, rows]
  cases Assoc.get? role tables with
  | none => simp
  | some given => exact mem_tableOf

theorem contains_iff (made : build version tables = .ok k) {role : Role} {subsignature : Text} :
    k.contains role subsignature = true ↔ ∃ given ∈ rows role tables,
      Subsignature.canonical given = Subsignature.canonical subsignature := by
  rw [contains, decide_eq_true_iff, mem_methodsFor made]

theorem contains_of_not_hasTable (made : build version tables = .ok k) {role : Role}
    (idle : role.hasTable = false) (subsignature : Text) :
    k.contains role subsignature = false := by
  rw [Bool.eq_false_iff]
  intro held
  obtain ⟨given, member, -⟩ := (contains_iff made).1 held
  rw [rows_of_not_hasTable (driven_of_build made) idle] at member
  cases member

end Build

def Lists (knots : Knots) (entries : List (Scalar × Value)) (role : Role) (e : Text) : Prop :=
  ∃ key listed name values v, (key, listed) ∈ entries ∧
    Value.written knots (.scalar key) = .ok name ∧ Role.ofName? name = some role ∧
    knots.untie listed = .list values ∧ v ∈ values ∧ v.isPresent = true ∧
    Value.written knots v = .ok e

def extendsBuiltin (d : Document) : Bool :=
  match d.top with
  | .object fields => (Value.fieldD "extend_defaults" fields .null).isPresent
  | _ => false

/-- A subsignature that a document supplies for a role, by itself or from the framework. -/
def Offers (d : Document) (role : Role) (e : Text) : Prop :=
  (extendsBuiltin d = true ∧ e ∈ Framework.callbacks role) ∨
    ∃ fields entries, d.top = .object fields ∧
      d.knots.untie (Value.fieldD "roles" fields .null) = .object entries ∧
      Lists d.knots entries role e

section Document
variable {knots : Knots}

theorem mem_subsignaturesOf {name : Text} {listed : Value} {more : List Text}
    (read : subsignaturesOf knots name listed = .ok more) {e : Text} :
    e ∈ more ↔ ∃ values v, knots.untie listed = .list values ∧ v ∈ values ∧ v.isPresent = true ∧
      Value.written knots v = .ok e := by
  rw [subsignaturesOf] at read
  split at read
  · rename_i values untied
    rw [Outcome.mem_mapM read]
    simp [untied, and_assoc]
  · cases read

theorem roleNamed_eq_ok {name : Text} {role : Role} (named : roleNamed name = .ok role) :
    Role.ofName? name = some role := by
  rw [roleNamed] at named
  split at named
  · rename_i found
    cases named
    exact found
  · cases named

theorem lists_cons {key : Scalar} {listed : Value} {rest : List (Scalar × Value)} {name : Text}
    {own role : Role} {more : List Text} (written : Value.written knots (.scalar key) = .ok name)
    (named : roleNamed name = .ok own) (read : subsignaturesOf knots name listed = .ok more)
    {e : Text} :
    Lists knots ((key, listed) :: rest) role e ↔
      (own = role ∧ e ∈ more) ∨ Lists knots rest role e := by
  rw [mem_subsignaturesOf read]
  constructor
  · intro lists
    obtain ⟨other, given, title, values, v, member, spelled, found, untied, inside⟩ := lists
    cases member with
    | head =>
      obtain rfl := Except.ok.inj (written.symm.trans spelled)
      have same := Option.some.inj ((roleNamed_eq_ok named).symm.trans found)
      exact .inl ⟨same, values, v, untied, inside⟩
    | tail _ later =>
      exact .inr ⟨other, given, title, values, v, later, spelled, found, untied, inside⟩
  · intro lists
    cases lists with
    | inl here =>
      obtain ⟨rfl, values, v, untied, inside⟩ := here
      exact ⟨key, listed, name, values, v, .head _, written, roleNamed_eq_ok named, untied, inside⟩
    | inr there =>
      obtain ⟨other, given, title, values, v, member, others⟩ := there
      exact ⟨other, given, title, values, v, .tail _ member, others⟩

theorem mem_rows_addRoles {tables after : List (Role × List Text)}
    {entries : List (Scalar × Value)} (added : addRoles knots tables entries = .ok after)
    {role : Role} {e : Text} :
    e ∈ rows role after ↔ e ∈ rows role tables ∨ Lists knots entries role e := by
  induction entries generalizing tables with
  | nil =>
    obtain rfl : tables = after := Except.ok.inj added
    simp [Lists]
  | cons entry rest ih =>
    obtain ⟨key, listed⟩ := entry
    rw [addRoles] at added
    obtain ⟨name, written, added⟩ := Outcome.bind_ok added
    obtain ⟨own, named, added⟩ := Outcome.bind_ok added
    obtain ⟨more, read, added⟩ := Outcome.bind_ok added
    rw [ih added, lists_cons written named read, rows_merge]
    by_cases same : own = role
    · simp [same, or_assoc]
    · simp [same]

theorem exists_tables_of_ofDocument {path : Text} {d : Document} {k : Catalog}
    (made : ofDocument path d = .ok k) : ∃ version tables, build version tables = .ok k ∧
      ∀ role e, e ∈ rows role tables ↔ Offers d role e := by
  rw [ofDocument] at made
  split at made
  · rename_i fields top
    rw [ofFields] at made
    split at made
    · cases made
    · split at made
      · rename_i entry rest roles
        obtain ⟨tables, added, made⟩ := Outcome.bind_ok made
        obtain ⟨version, -, made⟩ := Outcome.bind_ok made
        refine ⟨version, tables, made, fun role e => ?_⟩
        rw [mem_rows_addRoles added, Offers, extendsBuiltin]
        by_cases extended : (Value.fieldD "extend_defaults" fields .null).isPresent = true
        · simp [top, roles, extended, rows_frameworkTables]
        · simp [top, roles, extended, rows]
      · cases made
  · cases made

def documentAt (files : FileTree) (name : Text) : Except Fault Document :=
  let path := Path.ofText name
  if path.isYaml then
    (files.readYaml path).map fun document =>
      if document.isPresent then document else .ofValue (.object [])
  else (files.readJson path).map .ofValue

theorem load_eq (files : FileTree) (name : Text) :
    load files name = documentAt files name >>= ofDocument (Path.ofText name).text := by
  rw [load, documentAt]
  by_cases yaml : (Path.ofText name).isYaml = true
  · simp only [yaml, if_true]
    cases files.readYaml (Path.ofText name) <;> rfl
  · simp only [yaml]
    rfl

end Document

inductive Supply
  | given (version : Text) (tables : List (Role × List Text))
  | builtin
  | file (files : FileTree) (name : Text)

namespace Supply

def catalog : Supply → Except Fault Catalog
  | .given version tables => build version tables
  | .builtin => .ok .builtin
  | .file files name => load files name

def Gives : Supply → Role → Text → Prop
  | .given _ tables, role, e => ∃ own, Assoc.get? role tables = some own ∧ e ∈ own
  | .builtin, role, e => e ∈ Framework.callbacks role
  | .file files name, role, e => ∃ d, documentAt files name = .ok d ∧ Offers d role e

theorem exists_tables {supply : Supply} {k : Catalog} (made : supply.catalog = .ok k) :
    ∃ version tables, build version tables = .ok k ∧
      ∀ role e, e ∈ rows role tables ↔ supply.Gives role e := by
  cases supply with
  | given version tables =>
    refine ⟨version, tables, made, fun role e => ?_⟩
    rw [rows, Gives]
    cases Assoc.get? role tables <;> simp
  | builtin =>
    obtain rfl : Catalog.builtin = k := Except.ok.inj made
    refine ⟨"builtin", frameworkTables, build_builtin, fun role e => ?_⟩
    rw [rows_frameworkTables, Gives]
  | file files name =>
    rw [catalog, load_eq] at made
    obtain ⟨d, held, made⟩ := Outcome.bind_ok made
    obtain ⟨version, tables, built, rows⟩ := exists_tables_of_ofDocument made
    refine ⟨version, tables, built, fun role e => ?_⟩
    simp [rows, Gives, held]

end Supply

end Catalog

namespace EntryPoint

def isTabled (c : Classifier) (k : Catalog) (m : Method) : StateM State Bool := do
  let role ← c.roleOf m.declaring
  pure (k.contains role m.subsignature)

/-- However a catalog was come by, its tables are proper, and a method is an entry point exactly if
a subsignature with the same canonical form was supplied for the role that its class has. So no
method of an application or of a plain class is one, and to ask the catalog alone, without a look
at the role, comes to the same. -/
theorem entry_decision (supply : Catalog.Supply) (k : Catalog) (made : supply.catalog = .ok k) :
    k.IsProper ∧ ∀ (c : Classifier) (m : Method) (state : State),
      let role := ((c.roleOf m.declaring).run state).1
      (∃ holds, ((isEntryMethod c k (some m)).run.run state).1 = .ok holds ∧
        (holds = true ↔ ∃ e, supply.Gives role e ∧
          Subsignature.canonical e = Subsignature.canonical m.subsignature) ∧
        (role = .application ∨ role = .plain → holds = false)) ∧
      isEntryPoint c k m = isTabled c k m := by
  obtain ⟨version, tables, built, given⟩ := supply.exists_tables made
  refine ⟨Catalog.isProper_of_build built, fun c m state => ?_⟩
  intro role
  -- a role without a table holds nothing, so the look at the role never decides
  have guarded (role : Role) :
      (role.hasTable && k.contains role m.subsignature) = k.contains role m.subsignature := by
    cases driven : role.hasTable with
    | true => rfl
    | false => rw [Catalog.contains_of_not_hasTable built driven, Bool.and_false]
  have unguarded : isEntryPoint c k m = isTabled c k m := by
    rw [isEntryPoint, isTabled]
    simp only [guarded]
  refine ⟨⟨k.contains role m.subsignature, ?_, ?_, ?_⟩, unguarded⟩
  · rw [isEntryMethod, unguarded]
    rfl
  · rw [Catalog.contains_iff built]
    simp only [given]
  · intro idle
    apply Catalog.contains_of_not_hasTable built
    cases idle with
    | inl application => rw [application]; rfl
    | inr plain => rw [plain]; rfl

theorem entry_decision_extended :
    let files : FileTree := ⟨[(⟨.above 0, ["c.json"]⟩, .file (("\x7b\"version\": 1, " ++
      "\"extend_defaults\": true, " ++
      "\"roles\": \x7b\"ACTIVITY\": [\"int  onTick ( long,int )\"]\x7d\x7d").toUTF8))]⟩
    let supply := Catalog.Supply.file files "c.json"
    let c : Classifier := {
      oracle := some (.relation fun child _ => child = Text.of "a.B")
      rules := [(.activity, "android.app.Activity")]
      application := none }
    let m (declaring : Text) : Method := ⟨declaring, "onTick ", ["long", " int"], "int"⟩
    ∃ k, supply.catalog = .ok k ∧ k.IsProper ∧
      ((isEntryMethod c k (some (m "a.B"))).run.run {}).1 = .ok true ∧
      ((isEntryMethod c k (some (m "c.D"))).run.run {}).1 = .ok false ∧
      (∃ e, supply.Gives .activity e ∧
        Subsignature.canonical e = Text.of "int onTick(long,int)") ∧
      isEntryPoint c k (m "c.D") = isTabled c k (m "c.D") := by
  intro files supply c m
  have computed : (supply.catalog.toOption.map fun k =>
      ((isEntryMethod c k (some (m "a.B"))).run.run {}).1.toOption) = some (some true) := by
    decide +kernel
  obtain ⟨k, read, answered⟩ := Option.map_eq_some_iff.1 computed
  have made : supply.catalog = .ok k := Outcome.eq_ok_of_toOption read
  obtain ⟨proper, decided⟩ := entry_decision supply k made
  obtain ⟨⟨holds, ended, supplied, -⟩, -⟩ := decided c (m "a.B") {}
  obtain ⟨⟨other, refused, -, idle⟩, unguarded⟩ := decided c (m "c.D") {}
  have yes : holds = true := by
    rw [ended] at answered
    exact Option.some.inj answered
  have no : other = false := idle (.inr (by decide))
  have part : ((c.roleOf (m "a.B").declaring).run {}).1 = .activity := by decide +kernel
  have form : Subsignature.canonical (m "a.B").subsignature = Text.of "int onTick(long,int)" := by
    decide +kernel
  have given := supplied.1 yes
  rw [part, form] at given
  rw [yes] at ended
  rw [no] at refused
  exact ⟨k, made, proper, ended, refused, given, unguarded⟩

end EntryPoint

end DroidRoots
