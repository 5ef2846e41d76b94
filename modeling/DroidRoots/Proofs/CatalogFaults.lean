import DroidRoots.Proofs.CatalogContents
import DroidRoots.Proofs.HierarchyLoading

/-! Which decoded values are refused as catalogs, and how. The conditions come in a fixed order, and
the first that a value violates has its say: first those on the whole, then those on each entry of
the roles in turn, and only after all entries the one that every role be driven by the framework.
A value that violates none of them makes a catalog. -/

namespace DroidRoots

def Role.IsIdle (role : Role) : Prop := role = .application ∨ role = .plain

theorem Role.hasTable_eq_false_iff {role : Role} : role.hasTable = false ↔ role.IsIdle := by
  cases role <;> simp [hasTable, IsIdle]

namespace Catalog

def IsListing (role : Role) (e : Scalar × Value) : Prop :=
  ∃ name values, e = (.text name, .list values) ∧ role.IsNamed name

/-- What is wrong with an entry by itself, and how that is worded. The name is looked at first. -/
inductive EntryObjection : Scalar × Value → Fault → Text → Prop
  | unknownRole {name : Text} {listed : Value} (unknown : ∀ role : Role, ¬role.IsNamed name) :
    EntryObjection (.text name, listed) (.unknownRole name) ("Unknown component role: " ++ name)
  | withoutList {name : Text} {listed : Value} {role : Role} (named : role.IsNamed name)
    (other : ∀ values, listed ≠ .list values) :
    EntryObjection (.text name, listed) (.roleWithoutList name)
      ("Role " ++ name ++ " must list subsignatures")

/-- What is wrong with the value at a path, and how that is worded. Each condition is looked at only
where those before it hold. -/
inductive Objection (path : Text) : Value → Fault → Text → Prop
  | notMapping {v : Value} (other : ∀ fields, v ≠ .object fields) :
    Objection path v (.catalogNotMapping path)
      ("Lifecycle catalog " ++ path ++ " must be a mapping")
  | withoutVersion {fields : List (Scalar × Value)}
    (missing : (Value.fieldD "version" fields .null).isPresent = false) :
    Objection path (.object fields) .catalogWithoutVersion "Lifecycle catalog missing version"
  | withoutRoles {fields : List (Scalar × Value)}
    (versioned : (Value.fieldD "version" fields .null).isPresent = true)
    (bare : ∀ e rest, Value.fieldD "roles" fields .null ≠ .object (e :: rest)) :
    Objection path (.object fields) .catalogWithoutRoles "Lifecycle catalog missing roles"
  | entry {fields before after : List (Scalar × Value)} {e : Scalar × Value} {fault : Fault}
    {text : Text} (versioned : (Value.fieldD "version" fields .null).isPresent = true)
    (roles : Value.fieldD "roles" fields .null = .object (before ++ e :: after))
    (sound : ∀ f ∈ before, ∃ role, IsListing role f) (objection : EntryObjection e fault text) :
    Objection path (.object fields) fault text
  | withoutTable {fields before after : List (Scalar × Value)} {e : Scalar × Value} {role : Role}
    (versioned : (Value.fieldD "version" fields .null).isPresent = true)
    (roles : Value.fieldD "roles" fields .null = .object (before ++ e :: after))
    (earlier : ∀ f ∈ before, ∃ other, IsListing other f ∧ ¬other.IsIdle)
    (listing : IsListing role e) (idle : role.IsIdle)
    (later : ∀ f ∈ after, ∃ other, IsListing other f) :
    Objection path (.object fields) (.roleWithoutTable role)
      ("Role " ++ role.title ++ " has no lifecycle table")

/-- A value with a version and with roles that are all driven and listed, whatever their lists
hold. -/
def IsAccepted (v : Value) : Prop :=
  ∃ fields entries, v = .object fields ∧
    (Value.fieldD "version" fields .null).isPresent = true ∧
    Value.fieldD "roles" fields .null = .object entries ∧ entries ≠ [] ∧
    ∀ e ∈ entries, ∃ role, IsListing role e ∧ ¬role.IsIdle

section Entries
variable {e : Scalar × Value} {role : Role} {fault : Fault} {text : Text}

theorem EntryObjection.message (objection : EntryObjection e fault text) :
    fault.message = text := by
  cases objection <;> rfl

theorem IsListing.entryRole? (listing : IsListing role e) : entryRole? [] e = some role := by
  obtain ⟨name, values, rfl, named⟩ := listing
  exact entryRole?_eq_some_iff.2 ⟨name, rfl, named⟩

theorem IsListing.exists_readEntry (listing : IsListing role e) (json : e.2.IsJson) :
    ∃ own, readEntry [] e = .ok own := by
  obtain ⟨name, values, rfl, named⟩ := listing
  obtain ⟨more, collected⟩ : ∃ more, subsignaturesOf [] name (.list values) = .ok more := by
    cases json with
    | list all =>
      exact Outcome.exists_mapM fun v member =>
        ⟨v.shown, (all v (List.mem_of_mem_filter member)).written⟩
  refine ⟨(role, more), ?_⟩
  rw [readEntry_of_named rfl named, collected]
  rfl

theorem EntryObjection.readEntry (objection : EntryObjection e fault text) (json : e.2.IsJson) :
    Catalog.readEntry [] e = .error fault := by
  cases objection with
  | unknownRole unknown => exact readEntry_of_unknown rfl unknown
  | @withoutList name listed role named other =>
    rw [readEntry_of_named rfl named, subsignaturesOf, json.untie]
    cases listed with
    | list values => exact absurd rfl (other values)
    | _ => rfl

theorem isListing_or_objection (key : ∃ name, e.1 = .text name) :
    (∃ role, IsListing role e) ∨ ∃ fault text, EntryObjection e fault text := by
  obtain ⟨key, listed⟩ := e
  obtain ⟨name, rfl⟩ := key
  by_cases known : ∃ role : Role, role.IsNamed name
  · obtain ⟨role, named⟩ := known
    by_cases lists : ∃ values, listed = .list values
    · obtain ⟨values, rfl⟩ := lists
      exact .inl ⟨role, name, values, rfl, named⟩
    · exact .inr ⟨_, _, .withoutList named fun values same => lists ⟨values, same⟩⟩
  · exact .inr ⟨_, _, .unknownRole fun role named => known ⟨role, named⟩⟩

end Entries

section Whole
variable {v : Value} {fields entries : List (Scalar × Value)} {fault : Fault} {text path : Text}

theorem Objection.message (objection : Objection path v fault text) : fault.message = text := by
  cases objection with
  | entry _ _ _ objection => exact objection.message
  | _ => rfl

theorem build_error {version : Text} {tables : List (Role × List Text)} {role : Role}
    (first : (tables.map (·.1)).find? (fun role => !role.hasTable) = some role) :
    build version tables = .error (.roleWithoutTable role) := by
  rw [List.find?_map] at first
  obtain ⟨entry, found, rfl⟩ := Option.map_eq_some_iff.1 first
  have found : tables.find? (fun entry => !entry.1.hasTable) = some entry := found
  rw [build, found]

theorem ofFields_eq (json : (Value.object fields).IsJson)
    (versioned : (Value.fieldD "version" fields .null).isPresent = true)
    (roles : Value.fieldD "roles" fields .null = .object entries) (some : entries ≠ []) :
    ofFields [] fields = (entries.mapM (readEntry [])).bind fun given =>
      build (Value.fieldD "version" fields .null).shown (mergeAll (startOf fields) given) := by
  have untied : Knots.untie [] (Value.fieldD "roles" fields .null) = .object entries := by
    rw [(json.fieldD "roles").untie, roles]
  rw [ofFields_of_roles versioned untied some, (json.fieldD "version").written]
  cases entries.mapM (readEntry []) <;> rfl

theorem isJson_of_roles (json : (Value.object fields).IsJson)
    (roles : Value.fieldD "roles" fields .null = .object entries) :
    ∀ e ∈ entries, (∃ name, e.1 = .text name) ∧ e.2.IsJson := by
  have inside := json.fieldD "roles"
  rw [roles] at inside
  exact fun e member => ⟨inside.entries.1 e member, inside.entries.2.2 e member⟩

theorem exists_mapM_readEntry (json : (Value.object fields).IsJson)
    (roles : Value.fieldD "roles" fields .null = .object entries)
    (sound : ∀ e ∈ entries, ∃ role, IsListing role e) :
    ∃ given, entries.mapM (readEntry []) = .ok given := by
  refine Outcome.exists_mapM fun e member => ?_
  obtain ⟨role, listing⟩ := sound e member
  exact listing.exists_readEntry (isJson_of_roles json roles e member).2

theorem find?_idle_mergeAll {given : List (Role × List Text)}
    (read : entries.mapM (readEntry []) = .ok given) :
    ((mergeAll (startOf fields) given).map (·.1)).find? (fun role => !role.hasTable) =
      (entries.filterMap (entryRole? [])).find? (fun role => !role.hasTable) := by
  rw [find?_mergeAll, driven_startOf, Option.none_or, roles_of_mapM read]

theorem find?_idle_eq_none
    (driven : ∀ e ∈ entries, ∃ role, IsListing role e ∧ ¬role.IsIdle) :
    (entries.filterMap (entryRole? [])).find? (fun role => !role.hasTable) = none := by
  refine List.find?_eq_none.2 fun role member => ?_
  obtain ⟨e, inside, named⟩ := List.mem_filterMap.1 member
  obtain ⟨own, listing, busy⟩ := driven e inside
  obtain rfl : own = role := Option.some.inj (listing.entryRole?.symm.trans named)
  have tabled := mt Role.hasTable_eq_false_iff.1 busy
  simpa using tabled

theorem exists_first_without {α : Type} {P : α → Prop} {xs : List α} (lacking : ¬∀ x ∈ xs, P x) :
    ∃ before x after, xs = before ++ x :: after ∧ (∀ y ∈ before, P y) ∧ ¬P x := by
  classical
  cases found : xs.find? fun x => !decide (P x) with
  | none =>
    refine absurd (fun x member => ?_) lacking
    simpa using List.find?_eq_none.1 found x member
  | some x =>
    obtain ⟨without, before, after, rfl, earlier⟩ := List.find?_eq_some_iff_append.1 found
    exact ⟨before, x, after, rfl, by simpa using earlier, by simpa using without⟩

theorem error_of_objection (json : v.IsJson) (objection : Objection path v fault text) :
    ofDocument path (.ofValue v) = .error fault := by
  cases objection with
  | notMapping other =>
    have top : (Document.ofValue v).top = v := json.untie []
    rw [ofDocument, top]
    cases v with
    | object fields => exact absurd rfl (other fields)
    | _ => rfl
  | withoutVersion missing => exact ofFields_of_unversioned missing
  | withoutRoles versioned bare =>
    refine ofFields_of_bare versioned fun e rest => ?_
    rw [(json.fieldD "roles").untie]
    exact bare e rest
  | @entry fields before after e _ _ versioned roles sound objection =>
    have parts := isJson_of_roles json roles
    have failed : (before ++ e :: after).mapM (readEntry []) = .error fault := by
      refine Outcome.mapM_append_error (fun f member => ?_)
        (objection.readEntry (parts e (by simp)).2)
      obtain ⟨role, listing⟩ := sound f member
      exact listing.exists_readEntry (parts f (List.mem_append_left _ member)).2
    change ofFields [] fields = _
    rw [ofFields_eq json versioned roles (by simp), failed]
    rfl
  | @withoutTable fields before after e role versioned roles earlier listing idle later =>
    -- all entries are read before any table is missed, so they have to be sound first
    have sound : ∀ f ∈ before ++ e :: after, ∃ other, IsListing other f := by
      refine List.forall_mem_append.2
        ⟨fun f member => ?_, List.forall_mem_cons.2 ⟨⟨role, listing⟩, later⟩⟩
      obtain ⟨other, listed, -⟩ := earlier f member
      exact ⟨other, listed⟩
    obtain ⟨given, read⟩ := exists_mapM_readEntry json roles sound
    change ofFields [] fields = _
    rw [ofFields_eq json versioned roles (by simp), read]
    refine build_error ?_
    rw [find?_idle_mergeAll read, List.filterMap_append, List.find?_append,
      find?_idle_eq_none earlier, Option.none_or, List.filterMap_cons_some listing.entryRole?,
      List.find?_cons_of_pos]
    simp [Role.hasTable_eq_false_iff.2 idle]

theorem ok_of_isAccepted (json : v.IsJson) (accepted : IsAccepted v) (path : Text) :
    ∃ k, ofDocument path (.ofValue v) = .ok k := by
  obtain ⟨fields, entries, rfl, versioned, roles, some, driven⟩ := accepted
  obtain ⟨given, read⟩ := exists_mapM_readEntry json roles fun e member =>
    (driven e member).imp fun role listing => listing.1
  have none : ((mergeAll (startOf fields) given).map (·.1)).find? (fun role => !role.hasTable) =
      none := by
    rw [find?_idle_mergeAll read, find?_idle_eq_none driven]
  change ∃ k, ofFields [] fields = .ok k
  rw [ofFields_eq json versioned roles some, read]
  exact exists_build _ fun role member => by simpa using List.find?_eq_none.1 none role member

theorem objection_or_isAccepted (json : v.IsJson) (path : Text) :
    (∃ fault text, Objection path v fault text) ∨ IsAccepted v := by
  -- in the order in which the conditions are looked at, each one assumes those before it
  by_cases mapping : ∃ fields, v = .object fields
  swap
  · exact .inl ⟨_, _, .notMapping fun fields same => mapping ⟨fields, same⟩⟩
  obtain ⟨fields, rfl⟩ := mapping
  cases versioned : (Value.fieldD "version" fields .null).isPresent with
  | false => exact .inl ⟨_, _, .withoutVersion versioned⟩
  | true =>
    by_cases given : ∃ e rest, Value.fieldD "roles" fields .null = .object (e :: rest)
    swap
    · exact .inl ⟨_, _, .withoutRoles versioned fun e rest same => given ⟨e, rest, same⟩⟩
    obtain ⟨e, rest, roles⟩ := given
    by_cases sound : ∀ f ∈ e :: rest, ∃ role, IsListing role f
    swap
    · obtain ⟨before, f, after, split, earlier, faulty⟩ := exists_first_without sound
      have key := (isJson_of_roles json roles f (by simp [split])).1
      obtain ⟨fault, text, objection⟩ := (isListing_or_objection key).resolve_left faulty
      exact .inl ⟨fault, text, .entry versioned (split ▸ roles) earlier objection⟩
    by_cases driven : ∀ f ∈ e :: rest, ∃ role, IsListing role f ∧ ¬role.IsIdle
    · exact .inr ⟨fields, e :: rest, rfl, versioned, roles, by simp, driven⟩
    · obtain ⟨before, f, after, split, earlier, tableless⟩ := exists_first_without driven
      obtain ⟨role, listing⟩ := sound f (by simp [split])
      have idle : role.IsIdle := by
        by_contra busy
        exact tableless ⟨role, listing, busy⟩
      exact .inl ⟨_, _, .withoutTable versioned (split ▸ roles) earlier listing idle
        fun g member => sound g (by simp [split, member])⟩

end Whole

/-- A file that holds a JSON value, as every file of JSON does that can be decoded, is refused
exactly for the first condition that the value violates, in the words of that condition, and with no
other fault. If there is none, the catalog loads. -/
theorem rejection_exact (files : FileTree) (name : Text) :
    (∀ v, (Path.ofText name).isYaml = false → files.readJson (Path.ofText name) = .ok v →
      v.IsJson ∧ documentAt files name = .ok (.ofValue v)) ∧
    ∀ v, v.IsJson → documentAt files name = .ok (.ofValue v) →
      (∀ fault, load files name = .error fault ↔
        ∃ text, Objection (Path.ofText name).text v fault text) ∧
      (∀ fault text, Objection (Path.ofText name).text v fault text → fault.message = text) ∧
      ((∃ k, load files name = .ok k) ↔ IsAccepted v) := by
  constructor
  · intro v plain read
    refine ⟨Hierarchy.isJson_of_readJson read, ?_⟩
    simp only [documentAt, plain, Bool.false_eq_true, if_false, read]
    rfl
  · intro v json held
    have whole : load files name = ofDocument (Path.ofText name).text (.ofValue v) := by
      rw [load_eq, held]
      rfl
    rw [whole]
    refine ⟨fun fault => ⟨fun failed => ?_, ?_⟩, fun fault text => Objection.message,
      fun loaded => ?_, fun accepted => ok_of_isAccepted json accepted _⟩
    · rcases objection_or_isAccepted json (Path.ofText name).text with
        ⟨other, text, objection⟩ | accepted
      · rw [error_of_objection json objection] at failed
        obtain rfl : other = fault := Except.error.inj failed
        exact ⟨text, objection⟩
      · obtain ⟨k, made⟩ := ok_of_isAccepted json accepted (Path.ofText name).text
        rw [made] at failed
        cases failed
    · rintro ⟨text, objection⟩
      exact error_of_objection json objection
    · obtain ⟨k, made⟩ := loaded
      refine (objection_or_isAccepted json (Path.ofText name).text).resolve_left ?_
      rintro ⟨fault, text, objection⟩
      rw [error_of_objection json objection] at made
      cases made

/-- Among three entries at fault the second has its say, since a role without a table is looked for
only after all entries. Without it and the third the values in a list may be of any kind. -/
theorem rejection_exact_entries :
    let files : FileTree := ⟨[
      (⟨.above 0, ["c.json"]⟩, .file ("\x7b\"version\": 1, \"roles\": \x7b\"Plain\": [], " ++
        "\"Activity\": 7, \"Widget\": []\x7d\x7d").toUTF8),
      (⟨.above 0, ["d.json"]⟩, .file ("\x7b\"version\": [0], " ++
        "\"roles\": \x7b\"Activity\": [7, [], \x7b\"a\": [null]\x7d]\x7d\x7d").toUTF8)]⟩
    (∃ v, files.readJson (Path.ofText "c.json") = .ok v ∧
      load files "c.json" = .error (.roleWithoutList "Activity") ∧
      Objection "c.json" v (.roleWithoutList "Activity") "Role Activity must list subsignatures") ∧
    ∃ v k, files.readJson (Path.ofText "d.json") = .ok v ∧ load files "d.json" = .ok k ∧
      IsAccepted v := by
  intro files
  have computed : ∀ name ∈ [Text.of "c.json", Text.of "d.json"],
      (files.readJson (Path.ofText name)).toOption.isSome = true ∧
        (Path.ofText name).isYaml = false := by
    decide +kernel
  have refused : (load files "c.json").map (fun _ => ()) =
      .error (.roleWithoutList "Activity") := by
    decide +kernel
  have loaded : (load files "d.json").toOption.isSome = true := by decide +kernel
  simp only [List.forall_mem_cons] at computed
  obtain ⟨⟨first, json⟩, ⟨second, plain⟩, -⟩ := computed
  constructor
  · obtain ⟨v, read⟩ := Option.isSome_iff_exists.1 first
    have read := Outcome.eq_ok_of_toOption read
    obtain ⟨decoded, judged⟩ := rejection_exact files "c.json"
    obtain ⟨own, held⟩ := decoded v json read
    obtain ⟨faults, wording, -⟩ := judged v own held
    cases ended : load files "c.json" with
    | ok k =>
      rw [ended] at refused
      cases refused
    | error fault =>
      rw [ended] at refused
      obtain rfl : fault = .roleWithoutList "Activity" := Except.error.inj refused
      obtain ⟨text, objection⟩ := (faults _).1 ended
      obtain rfl := wording _ _ objection
      exact ⟨v, read, rfl, objection⟩
  · obtain ⟨v, read⟩ := Option.isSome_iff_exists.1 second
    obtain ⟨k, made⟩ := Option.isSome_iff_exists.1 loaded
    have read := Outcome.eq_ok_of_toOption read
    have made := Outcome.eq_ok_of_toOption made
    obtain ⟨decoded, judged⟩ := rejection_exact files "d.json"
    obtain ⟨own, held⟩ := decoded v plain read
    exact ⟨v, k, read, made, (judged v own held).2.2.1 ⟨k, made⟩⟩

end Catalog

end DroidRoots
