import DroidRoots.Proofs.SuppliedCatalogs
import Mathlib.Data.List.Forall2

/-! What a catalog holds that was made of a document. Each table holds the canonical forms of what
the document lists under the names of its role, be it under one of them or under both, and of the
framework's own subsignatures if the document asks for them. Neither the order of the roles nor
that of their lists makes a difference. -/

namespace DroidRoots

namespace Role

def IsNamed (role : Role) (name : Text) : Prop := name = role.title ∨ name = role.key

theorem ofName?_eq_some_iff {name : Text} {role : Role} :
    ofName? name = some role ↔ role.IsNamed name := by
  constructor
  · intro found
    simpa [IsNamed] using List.find?_some found
  · rintro (rfl | rfl)
    · exact ofName?_title role
    · exact ofName?_key role

end Role

namespace Catalog

def readEntry (knots : Knots) (e : Scalar × Value) : Except Fault (Role × List Text) := do
  let name ← Value.written knots (.scalar e.1)
  let role ← roleNamed name
  let more ← subsignaturesOf knots name e.2
  return (role, more)

def mergeAll (tables given : List (Role × List Text)) : List (Role × List Text) :=
  given.foldl (fun done e => merge e.1 e.2 done) tables

def entryRole? (knots : Knots) (e : Scalar × Value) : Option Role :=
  (Value.written knots (.scalar e.1)).toOption.bind Role.ofName?

section Entries
variable {knots : Knots} {entries : List (Scalar × Value)} {tables given : List (Role × List Text)}

theorem exists_of_readEntry {e : Scalar × Value} {role : Role} {more : List Text}
    (read : readEntry knots e = .ok (role, more)) :
    ∃ name, Value.written knots (.scalar e.1) = .ok name ∧ role.IsNamed name ∧
      subsignaturesOf knots name e.2 = .ok more := by
  obtain ⟨name, written, read⟩ := Outcome.bind_ok read
  obtain ⟨own, named, read⟩ := Outcome.bind_ok read
  obtain ⟨listed, collected, read⟩ := Outcome.bind_ok read
  cases read
  exact ⟨name, written, Role.ofName?_eq_some_iff.1 (roleNamed_eq_ok named), collected⟩

theorem readEntry_of_named {e : Scalar × Value} {name : Text} {role : Role}
    (written : Value.written knots (.scalar e.1) = .ok name) (named : role.IsNamed name) :
    readEntry knots e = (subsignaturesOf knots name e.2).map fun more => (role, more) := by
  rw [readEntry, written]
  change (roleNamed name >>= _) = _
  rw [roleNamed, Role.ofName?_eq_some_iff.2 named]
  change (subsignaturesOf knots name e.2 >>= _) = _
  cases subsignaturesOf knots name e.2 <;> rfl

theorem readEntry_of_unknown {e : Scalar × Value} {name : Text}
    (written : Value.written knots (.scalar e.1) = .ok name)
    (unknown : ∀ role : Role, ¬role.IsNamed name) :
    readEntry knots e = .error (.unknownRole name) := by
  have none : Role.ofName? name = none :=
    Option.eq_none_iff_forall_ne_some.2 fun role found =>
      unknown role (Role.ofName?_eq_some_iff.1 found)
  rw [readEntry, written]
  change (roleNamed name >>= _) = _
  rw [roleNamed, none]
  rfl

theorem addRoles_cons (e : Scalar × Value) (rest : List (Scalar × Value)) :
    addRoles knots tables (e :: rest) =
      (readEntry knots e).bind fun own => addRoles knots (merge own.1 own.2 tables) rest := by
  simp only [addRoles, readEntry, bind, pure, Except.bind, Except.pure]
  cases Value.written knots (.scalar e.1) with
  | error fault => rfl
  | ok name =>
    cases named : roleNamed name with
    | error fault => simp only [named]
    | ok role => cases listed : subsignaturesOf knots name e.2 <;> simp only [named, listed]

theorem addRoles_eq (knots : Knots) (tables : List (Role × List Text))
    (entries : List (Scalar × Value)) :
    addRoles knots tables entries = (entries.mapM (readEntry knots)).map (mergeAll tables) := by
  induction entries generalizing tables with
  | nil => rfl
  | cons e rest ih =>
    rw [addRoles_cons, List.mapM_cons]
    cases readEntry knots e with
    | error fault => rfl
    | ok own =>
      rw [Except.bind, ih]
      cases List.mapM (readEntry knots) rest <;> rfl

theorem roles_of_mapM (read : entries.mapM (readEntry knots) = .ok given) :
    given.map (·.1) = entries.filterMap (entryRole? knots) := by
  induction entries generalizing given with
  | nil =>
    obtain rfl : [] = given := Except.ok.inj read
    rfl
  | cons e rest ih =>
    rw [List.mapM_cons] at read
    obtain ⟨⟨role, more⟩, own, read⟩ := Outcome.bind_ok read
    obtain ⟨others, later, read⟩ := Outcome.bind_ok read
    obtain rfl : (role, more) :: others = given := Except.ok.inj read
    obtain ⟨name, written, named, -⟩ := exists_of_readEntry own
    have found : entryRole? knots e = some role := by
      rw [entryRole?, written]
      exact Role.ofName?_eq_some_iff.2 named
    rw [List.filterMap_cons_some found, List.map_cons, ih later]

theorem find?_mergeAll (p : Role → Bool) (tables given : List (Role × List Text)) :
    ((mergeAll tables given).map (·.1)).find? p =
      ((tables.map (·.1)).find? p).or ((given.map (·.1)).find? p) := by
  induction given generalizing tables with
  | nil => simp [mergeAll]
  | cons e rest ih =>
    obtain ⟨role, more⟩ := e
    have first : ((merge role more tables).map (·.1)).find? p =
        ((tables.map (·.1)).find? p).or ([role].find? p) := by
      rw [merge, Assoc.map_fst_put]
      split
      · rename_i known
        cases found : (tables.map (·.1)).find? p with
        | some other => rfl
        | none =>
          have other : ¬p role = true := List.find?_eq_none.1 found role known
          simp [other]
      · rw [List.find?_append]
    have split : ([role] ++ rest.map (·.1)).find? p =
        ([role].find? p).or ((rest.map (·.1)).find? p) := List.find?_append
    rw [List.singleton_append] at split
    change ((mergeAll (merge role more tables) rest).map (·.1)).find? p = _
    rw [ih, first, Option.or_assoc, List.map_cons, split]

def IsUnder (knots : Knots) (role : Role) (e : Scalar × Value) : Prop :=
  ∃ name, Value.written knots (.scalar e.1) = .ok name ∧ role.IsNamed name

theorem entryRole?_eq_some_iff {e : Scalar × Value} {role : Role} :
    entryRole? knots e = some role ↔ IsUnder knots role e := by
  rw [entryRole?, IsUnder]
  cases Value.written knots (.scalar e.1) with
  | error fault => simp [Except.toOption]
  | ok name => simp [Except.toOption, Role.ofName?_eq_some_iff]

theorem lists_iff {role : Role} {text : Text} :
    Lists knots entries role text ↔ ∃ e ∈ entries, IsUnder knots role e ∧
      ∃ values, knots.untie e.2 = .list values ∧
        ∃ v ∈ values, v.isPresent = true ∧ Value.written knots v = .ok text := by
  simp only [Lists, IsUnder, Role.ofName?_eq_some_iff]
  constructor
  · rintro ⟨key, listed, name, values, v, member, written, named, untied, inside⟩
    exact ⟨(key, listed), member, ⟨name, written, named⟩, values, untied, v, inside⟩
  · rintro ⟨⟨key, listed⟩, member, ⟨name, written, named⟩, values, untied, v, inside⟩
    exact ⟨key, listed, name, values, v, member, written, named, untied, inside⟩

end Entries

section Fields
variable {knots : Knots} {fields entries : List (Scalar × Value)} {k : Catalog}

def startOf (fields : List (Scalar × Value)) : List (Role × List Text) :=
  if (Value.fieldD "extend_defaults" fields .null).isPresent then frameworkTables else []

theorem driven_startOf :
    ((startOf fields).map (·.1)).find? (fun role => !role.hasTable) = none := by
  rw [startOf]
  split <;> decide

theorem ofFields_of_unversioned
    (missing : (Value.fieldD "version" fields .null).isPresent = false) :
    ofFields knots fields = .error .catalogWithoutVersion := by
  simp only [ofFields, missing, Bool.not_false, if_true]

theorem ofFields_of_bare (versioned : (Value.fieldD "version" fields .null).isPresent = true)
    (bare : ∀ e rest, knots.untie (Value.fieldD "roles" fields .null) ≠ .object (e :: rest)) :
    ofFields knots fields = .error .catalogWithoutRoles := by
  simp only [ofFields, versioned, Bool.not_true, Bool.false_eq_true, if_false]

theorem ofFields_of_roles (versioned : (Value.fieldD "version" fields .null).isPresent = true)
    (roles : knots.untie (Value.fieldD "roles" fields .null) = .object entries)
    (some : entries ≠ []) :
    ofFields knots fields = (do
      let given ← entries.mapM (readEntry knots)
      let version ← Value.written knots (Value.fieldD "version" fields .null)
      build version (mergeAll (startOf fields) given)) := by
  cases entries with
  | nil => exact absurd rfl some
  | cons e rest =>
    simp only [ofFields, versioned, roles, addRoles_eq]
    cases (e :: rest).mapM (readEntry knots) <;> rfl

theorem exists_build {tables : List (Role × List Text)} (version : Text)
    (driven : ∀ role ∈ tables.map (·.1), role.hasTable = true) :
    ∃ k, build version tables = .ok k := by
  have none : tables.find? (fun entry => !entry.1.hasTable) = none := by
    refine List.find?_eq_none.2 fun entry member => ?_
    simp [driven entry.1 (List.mem_map_of_mem member)]
  exact ⟨_, by rw [build, none]⟩

end Fields

/-- Two entries under one key, with lists of the same values, each in an order of its own. -/
def Relisted (knots : Knots) (e f : Scalar × Value) : Prop :=
  e.1 = f.1 ∧ ∃ values others, knots.untie e.2 = .list values ∧ knots.untie f.2 = .list others ∧
    values.Perm others

def Shuffled (knots : Knots) (entries others : List (Scalar × Value)) : Prop :=
  ∃ between, entries.Perm between ∧ List.Forall₂ (Relisted knots) between others

/-- Two documents with the same version, the same roles and the same word on the framework's own
tables, except that the roles and their lists come in an order of their own. -/
def Rearranged (d other : Document) : Prop :=
  other.knots = d.knots ∧ ∃ fields shuffled entries others,
    d.top = .object fields ∧ other.top = .object shuffled ∧
    Value.fieldD "version" shuffled .null = Value.fieldD "version" fields .null ∧
    Value.fieldD "extend_defaults" shuffled .null = Value.fieldD "extend_defaults" fields .null ∧
    d.knots.untie (Value.fieldD "roles" fields .null) = .object entries ∧
    d.knots.untie (Value.fieldD "roles" shuffled .null) = .object others ∧
    Shuffled d.knots entries others

section Order
variable {knots : Knots} {entries others : List (Scalar × Value)} {e f : Scalar × Value}

theorem Relisted.symm (relisted : Relisted knots e f) : Relisted knots f e := by
  obtain ⟨key, values, others, own, other, perm⟩ := relisted
  exact ⟨key.symm, others, values, other, own, perm.symm⟩

def Covered (knots : Knots) (entries others : List (Scalar × Value)) : Prop :=
  ∀ e ∈ entries, ∃ f ∈ others, Relisted knots e f

theorem Shuffled.covered (shuffled : Shuffled knots entries others) :
    Covered knots entries others ∧ Covered knots others entries := by
  obtain ⟨between, perm, alike⟩ := shuffled
  have matched : Covered knots between others ∧ Covered knots others between := by
    clear perm
    induction alike with
    | nil => exact ⟨fun e member => absurd member List.not_mem_nil,
        fun e member => absurd member List.not_mem_nil⟩
    | @cons e f rest tail relisted _ ih =>
      refine ⟨List.forall_mem_cons.2 ⟨⟨f, by simp, relisted⟩, fun g member => ?_⟩,
        List.forall_mem_cons.2 ⟨⟨e, by simp, relisted.symm⟩, fun g member => ?_⟩⟩
      · obtain ⟨like, other, same⟩ := ih.1 g member
        exact ⟨like, List.mem_cons_of_mem _ other, same⟩
      · obtain ⟨like, other, same⟩ := ih.2 g member
        exact ⟨like, List.mem_cons_of_mem _ other, same⟩
  refine ⟨fun e member => matched.1 e (perm.mem_iff.1 member), fun f member => ?_⟩
  obtain ⟨e, own, relisted⟩ := matched.2 f member
  exact ⟨e, perm.mem_iff.2 own, relisted⟩

theorem exists_readEntry_of_relisted (relisted : Relisted knots e f) {own : Role × List Text}
    (read : readEntry knots e = .ok own) : ∃ other, readEntry knots f = .ok other := by
  obtain ⟨key, values, moved, untied, listed, perm⟩ := relisted
  obtain ⟨role, more⟩ := own
  obtain ⟨name, written, named, collected⟩ := exists_of_readEntry read
  rw [subsignaturesOf, untied] at collected
  obtain ⟨others, collected⟩ : ∃ others,
      (moved.filter Value.isPresent).mapM (Value.written knots) = .ok others := by
    refine Outcome.exists_mapM fun v member => ?_
    exact Outcome.exists_of_mapM collected v ((perm.filter _).mem_iff.2 member)
  have same : subsignaturesOf knots name f.2 = .ok others := by
    rw [subsignaturesOf, listed]
    exact collected
  refine ⟨(role, others), ?_⟩
  rw [readEntry_of_named (key ▸ written) named, same]
  rfl

theorem Shuffled.exists_mapM (shuffled : Shuffled knots entries others)
    {given : List (Role × List Text)} (read : entries.mapM (readEntry knots) = .ok given) :
    ∃ regiven, others.mapM (readEntry knots) = .ok regiven := by
  refine Outcome.exists_mapM fun f member => ?_
  obtain ⟨e, inside, relisted⟩ := shuffled.covered.2 f member
  obtain ⟨own, found⟩ := Outcome.exists_of_mapM read e inside
  exact exists_readEntry_of_relisted relisted.symm found

theorem Shuffled.ne_nil (shuffled : Shuffled knots entries others) (some : entries ≠ []) :
    others ≠ [] := by
  obtain ⟨e, rest, rfl⟩ := List.exists_cons_of_ne_nil some
  obtain ⟨f, member, -⟩ := shuffled.covered.1 e (List.mem_cons_self ..)
  exact List.ne_nil_of_mem member

end Order

end Catalog

end DroidRoots
