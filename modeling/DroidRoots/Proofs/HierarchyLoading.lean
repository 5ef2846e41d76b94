import DroidRoots.Proofs.JsonDocuments
import DroidRoots.Run
import Mathlib.Data.List.Nodup

/-! How the loading of a hierarchy ends. A file without an object of classes gives no hierarchy
and one warning. An object of classes gives a hierarchy with exactly these classes, unless an
entry has a number or true where names are expected: then loading fails. -/

namespace DroidRoots

namespace Value

/-- True or a number other than zero: what counts as present but has no elements. -/
def IsBare : Value → Prop
  | .bool b => b = true
  | .int i => i ≠ 0
  | .float x => x.isZero = false
  | _ => False

theorem IsBare.isPresent {v : Value} (bare : v.IsBare) : v.isPresent = true := by
  unfold IsBare at bare
  split at bare
  · exact bare
  · simpa [Value.isPresent, Scalar.isPresent] using bare
  · simpa [Value.isPresent, Scalar.isPresent] using bare
  · cases bare

theorem IsBare.elements?_eq_none {v : Value} (bare : v.IsBare) : v.elements? = none := by
  unfold IsBare at bare
  split at bare
  · rfl
  · rfl
  · rfl
  · cases bare

theorem IsJson.exists_elements? {v : Value} (json : v.IsJson) (present : v.isPresent = true)
    (full : ¬v.IsBare) : ∃ values, v.elements? = some values := by
  cases json with
  | list all => exact ⟨_, rfl⟩
  | object keys once all => exact ⟨_, rfl⟩
  | @scalar s plain =>
    cases s with
    | null => cases present
    | bool b => exact absurd present full
    | int i =>
      exact absurd (by simpa [Value.isPresent, Scalar.isPresent, IsBare] using present) full
    | float x =>
      exact absurd (by simpa [Value.isPresent, Scalar.isPresent, IsBare] using present) full
    | text s => exact ⟨_, rfl⟩
    | moment m => cases plain
    | bytes b => cases plain

end Value

namespace Hierarchy

section Fields
variable {fields : List (Scalar × Value)} {field : Text}

theorem namesUnder_of_isBare {value : Value} (found : Value.field? field fields = some value)
    (bare : value.IsBare) : namesUnder field fields = .error .expectedCollection := by
  simp [namesUnder, found, bare.isPresent, bare.elements?_eq_none]

theorem fault_of_namesUnder {fault : Fault} (failed : namesUnder field fields = .error fault) :
    fault = .expectedCollection := by
  unfold namesUnder at failed
  split at failed
  · cases failed
  · split at failed
    · cases failed
    · split at failed
      · cases failed
        rfl
      · cases failed

theorem exists_namesUnder (json : ∀ e ∈ fields, e.2.IsJson)
    (full : ∀ value, Value.field? field fields = some value → ¬value.IsBare) :
    ∃ names, namesUnder field fields = .ok names := by
  unfold namesUnder
  split
  · exact ⟨_, rfl⟩
  · rename_i value found
    by_cases present : value.isPresent = true
    · obtain ⟨e, member, same⟩ := Value.mem_of_lookup? found
      have plain : value.IsJson := same ▸ json e member
      obtain ⟨values, listed⟩ := plain.exists_elements? present (full value found)
      simp [present, listed]
    · simp [present]

end Fields

def Misshapen (entry : Value) : Prop :=
  ∃ fields value, entry = .object fields ∧ value.IsBare ∧
    (Value.field? "supertypes" fields = some value ∨ Value.field? "interfaces" fields = some value)

variable {entry : Value}

theorem fault_of_listedNames {fault : Fault} (failed : listedNames entry = .error fault) :
    fault = .expectedCollection := by
  unfold listedNames at failed
  split at failed
  · rcases Outcome.bind_error failed with first | ⟨supertypes, -, failed⟩
    · exact fault_of_namesUnder first
    · rcases Outcome.bind_error failed with second | ⟨interfaces, -, failed⟩
      · exact fault_of_namesUnder second
      · cases failed
  · cases failed
  · cases failed

theorem listedNames_of_misshapen (misshapen : Misshapen entry) :
    listedNames entry = .error .expectedCollection := by
  obtain ⟨fields, value, rfl, bare, found⟩ := misshapen
  rw [listedNames]
  rcases found with first | second
  · rw [namesUnder_of_isBare first bare]
    rfl
  · rw [namesUnder_of_isBare second bare]
    cases before : namesUnder "supertypes" fields with
    | ok names => rfl
    | error fault =>
      rw [fault_of_namesUnder before]
      rfl

theorem exists_listedNames (json : entry.IsJson) (shaped : ¬Misshapen entry) :
    ∃ names, listedNames entry = .ok names := by
  cases json with
  | scalar plain => exact ⟨_, rfl⟩
  | list all => exact ⟨_, rfl⟩
  | @object fields keys once all =>
    obtain ⟨supertypes, first⟩ : ∃ names, namesUnder "supertypes" fields = .ok names :=
      exists_namesUnder all fun value found bare => shaped ⟨fields, value, rfl, bare, .inl found⟩
    obtain ⟨interfaces, second⟩ : ∃ names, namesUnder "interfaces" fields = .ok names :=
      exists_namesUnder all fun value found bare => shaped ⟨fields, value, rfl, bare, .inr found⟩
    rw [listedNames, first, second]
    exact ⟨_, rfl⟩

variable {done listed : List (Text × NameSet)} {classes : List (Scalar × Value)}

theorem ofEntries_of_misshapen (misshapen : ∃ e ∈ classes, Misshapen e.2) :
    ofEntries done classes = .error .expectedCollection := by
  induction classes generalizing done with
  | nil =>
    obtain ⟨e, member, -⟩ := misshapen
    cases member
  | cons first rest ih =>
    obtain ⟨name, value⟩ := first
    rw [ofEntries, entry]
    cases own : listedNames value with
    | error fault =>
      -- the first entry may be at fault itself, in the only way that there is
      rw [fault_of_listedNames own]
      rfl
    | ok names =>
      have later : ∃ e ∈ rest, Misshapen e.2 := by
        obtain ⟨e, member, wrong⟩ := misshapen
        rcases List.mem_cons.1 member with rfl | member
        · rw [listedNames_of_misshapen wrong] at own
          cases own
        · exact ⟨e, member, wrong⟩
      exact ih later

theorem exists_ofEntries (json : ∀ e ∈ classes, e.2.IsJson)
    (shaped : ∀ e ∈ classes, ¬Misshapen e.2) : ∃ listed, ofEntries done classes = .ok listed := by
  induction classes generalizing done with
  | nil => exact ⟨done, rfl⟩
  | cons first rest ih =>
    obtain ⟨name, value⟩ := first
    have own := List.mem_cons_self (a := (name, value)) (l := rest)
    obtain ⟨names, found⟩ := exists_listedNames (json _ own) (shaped _ own)
    rw [ofEntries, entry, found]
    exact ih (fun e member => json e (List.mem_cons_of_mem _ member))
      fun e member => shaped e (List.mem_cons_of_mem _ member)

theorem map_fst_ofEntries (read : ofEntries done classes = .ok listed)
    (once : (done.map (·.1) ++ classes.map (·.1.shown)).Nodup) :
    listed.map (·.1) = done.map (·.1) ++ classes.map (·.1.shown) := by
  induction classes generalizing done with
  | nil =>
    cases read
    simp
  | cons first rest ih =>
    obtain ⟨name, value⟩ := first
    obtain ⟨own, found, read⟩ := Outcome.bind_ok read
    obtain ⟨names, -, rfl⟩ := Outcome.map_ok found
    -- a name that is listed already would keep its place and give the list no new one
    have new : name.shown ∉ done.map (·.1) := by
      intro old
      exact (List.nodup_append.1 once).2.2 _ old _ (List.mem_cons_self ..) rfl
    have keys := Assoc.map_fst_put name.shown (NameSet.ofList (names.filter (· ≠ name.shown))) done
    rw [if_neg new] at keys
    rw [List.map_cons, List.append_cons, ← keys] at once
    rw [ih read once, keys]
    simp

theorem map_text_ofEntries (names : ∀ e ∈ classes, ∃ s, e.1 = .text s)
    (once : (classes.map (·.1)).Nodup) (read : ofEntries [] classes = .ok listed) :
    listed.map (fun e => Scalar.text e.1) = classes.map (·.1) := by
  have texts : (classes.map (·.1.shown)).map Scalar.text = classes.map (·.1) := by
    rw [List.map_map]
    refine List.map_congr_left fun e member => ?_
    obtain ⟨s, key⟩ := names e member
    change Scalar.text e.1.shown = e.1
    rw [key]
    rfl
  have shown : (classes.map (·.1.shown)).Nodup := List.Nodup.of_map _ (texts ▸ once)
  have same : listed.map (·.1) = classes.map (·.1.shown) := map_fst_ofEntries read shown
  rw [← texts, ← same, List.map_map]
  rfl

theorem not_fatal_of_objection {path : Path} {fault : Fault}
    (objection : path.objection? = some fault) : isFatal fault = false := by
  unfold Path.objection? at objection
  split at objection
  · cases objection
    rfl
  · split at objection
    · cases objection
      rfl
    · split at objection <;> cases objection
      rfl

theorem not_fatal_of_read {files : FileTree} {path : Path} {fault : Fault}
    (failed : files.read path = .error fault) : isFatal fault = false := by
  rw [FileTree.read] at failed
  rcases Outcome.bind_error failed with objected | ⟨arrival, -, failed⟩
  · rw [FileTree.arrivalAt] at objected
    split at objected
    · rename_i objection
      cases objected
      exact not_fatal_of_objection objection
    · cases objected
  · split at failed <;> cases failed <;> rfl

theorem not_fatal_of_readJson {files : FileTree} {path : Path} {fault : Fault}
    (failed : files.readJson path = .error fault) (shallow : fault ≠ .tooDeep) :
    isFatal fault = false := by
  rw [FileTree.readJson] at failed
  rcases Outcome.bind_error failed with unread | ⟨content, -, failed⟩
  · exact not_fatal_of_read unread
  · rcases Outcome.bind_error failed with undecoded | ⟨chars, -, failed⟩
    · unfold FileContent.text at undecoded
      split at undecoded <;> cases undecoded
      rfl
    · have known := Json.read_reads chars
      rw [failed] at known
      cases fault <;> first | rfl | exact absurd rfl shallow | cases known

theorem readJson_eq_ok {files : FileTree} {path : Path} {document : Value} :
    files.readJson path = .ok document ↔ ∃ content chars, files.read path = .ok content ∧
      FileContent.text content = .ok chars ∧ Json.read chars = .ok document := by
  rw [FileTree.readJson]
  constructor
  · intro whole
    obtain ⟨content, opened, decoding⟩ := Outcome.bind_ok whole
    obtain ⟨chars, decoded, read⟩ := Outcome.bind_ok decoding
    exact ⟨content, chars, opened, decoded, read⟩
  · rintro ⟨content, chars, opened, decoded, read⟩
    rw [opened]
    change (FileContent.text content >>= Json.read) = _
    rw [decoded]
    exact read

theorem isJson_of_readJson {files : FileTree} {path : Path} {document : Value}
    (read : files.readJson path = .ok document) : document.IsJson := by
  obtain ⟨content, chars, -, -, decoded⟩ := readJson_eq_ok.1 read
  have whole := Json.read_reads chars
  rw [decoded] at whole
  exact whole

/-- A file that can be read, is UTF-8 and is a JSON object with an object under "classes". -/
def Holds (files : FileTree) (path : Path) (classes : List (Scalar × Value)) : Prop :=
  ∃ content chars fields, files.read path = .ok content ∧ FileContent.text content = .ok chars ∧
    Json.read chars = .ok (.object fields) ∧ Value.field? "classes" fields = some (.object classes)

variable {files : FileTree} {path : Path} {name : Text} {s : State}

theorem Holds.ofValue (holds : Holds files path classes) :
    (files.readJson path).bind ofValue = (ofEntries [] classes).map Hierarchy.mk := by
  obtain ⟨content, chars, fields, opened, decoded, read, found⟩ := holds
  rw [readJson_eq_ok.2 ⟨content, chars, opened, decoded, read⟩, Except.bind, Hierarchy.ofValue,
    found]

theorem Holds.isJson (holds : Holds files path classes) : (Value.object classes).IsJson := by
  obtain ⟨content, chars, fields, opened, decoded, read, found⟩ := holds
  exact (isJson_of_readJson (readJson_eq_ok.2 ⟨content, chars, opened, decoded, read⟩)).field? found

theorem exists_fault_of_not_holds (lacking : ∀ classes, ¬Holds files path classes)
    (shallow : files.readJson path ≠ .error .tooDeep) :
    ∃ fault, (files.readJson path).bind ofValue = .error fault ∧ isFatal fault = false := by
  cases whole : files.readJson path with
  | error fault =>
    refine ⟨fault, rfl, not_fatal_of_readJson whole fun deep => shallow ?_⟩
    rw [whole, deep]
  | ok document =>
    refine ⟨.hierarchyWithoutClasses, ?_, rfl⟩
    obtain ⟨content, chars, opened, decoded, read⟩ := readJson_eq_ok.1 whole
    rw [Except.bind]
    fun_cases Hierarchy.ofValue document with
    | case1 fields classes found =>
      exact absurd ⟨content, chars, fields, opened, decoded, read, found⟩ (lacking classes)
    | case2 => rfl
    | case3 => rfl

theorem load_of_ok {h : Hierarchy}
    (read : (files.readJson (Path.ofText name)).bind ofValue = .ok h) :
    (load files name).run.run s = (.ok (some h), s) := by
  simp only [load, read]
  rfl

theorem load_of_fatal {fault : Fault}
    (failed : (files.readJson (Path.ofText name)).bind ofValue = .error fault)
    (fatal : isFatal fault = true) : (load files name).run.run s = (.error fault, s) := by
  simp only [load, failed, fatal]
  rfl

theorem load_of_not_fatal {fault : Fault}
    (failed : (files.readJson (Path.ofText name)).bind ofValue = .error fault)
    (gap : isFatal fault = false) :
    (load files name).run.run s =
      (.ok none, { s with
        notices := s.notices ++ [.hierarchyUnavailable (Path.ofText name).text] }) := by
  simp only [load, failed, gap]
  rfl

/-- Without an object of classes there is no hierarchy but one warning. Of an object of classes
each is in the hierarchy, once, and nothing is noted; but if an entry has something without
elements where names are expected, then loading ends in a fault that nothing catches. -/
theorem load_ends (files : FileTree) (name : Text) (s : State)
    (shallow : files.readJson (Path.ofText name) ≠ .error .tooDeep) :
    let path := Path.ofText name
    let notice := Notice.hierarchyUnavailable path.text
    let loaded := (load files name).run.run s
    (notice.isWarning = true ∧ ((∀ classes, ¬Holds files path classes) →
      loaded = (.ok none, { s with notices := s.notices ++ [notice] }))) ∧
    ∀ classes, Holds files path classes →
      (classes.map (·.1)).Nodup ∧
      ((∀ e ∈ classes, ¬Misshapen e.2) → ∃ h, loaded = (.ok (some h), s) ∧
        h.listed.map (fun e => Scalar.text e.1) = classes.map (·.1)) ∧
      ((∃ e ∈ classes, Misshapen e.2) → loaded = (.error .expectedCollection, s)) := by
  intro path notice loaded
  refine ⟨⟨rfl, fun lacking => ?_⟩, fun classes holds => ?_⟩
  · obtain ⟨fault, failed, gap⟩ := exists_fault_of_not_holds lacking shallow
    exact load_of_not_fatal failed gap
  · obtain ⟨names, once, all⟩ := holds.isJson.entries
    refine ⟨once, fun shaped => ?_, fun misshapen => ?_⟩
    · obtain ⟨listed, read⟩ : ∃ listed, ofEntries [] classes = .ok listed :=
        exists_ofEntries all shaped
      have given := holds.ofValue
      rw [read] at given
      exact ⟨⟨listed⟩, load_of_ok given, map_text_ofEntries names once read⟩
    · have given := holds.ofValue
      rw [ofEntries_of_misshapen misshapen] at given
      exact load_of_fatal given rfl

theorem load_ends_listed :
    let files : FileTree := ⟨[(⟨.above 0, ["h.json"]⟩, .file <| String.toUTF8
      "\x7b\"classes\": \x7b\"a.B\": [\"c.D\"], \"c.D\": \x7b\"supertypes\": 0\x7d\x7d\x7d")]⟩
    (∃ classes h, Holds files (Path.ofText "h.json") classes ∧
      (load files "h.json").run.run {} = (.ok (some h), {}) ∧
      classes.map (·.1) = [.text "a.B", .text "c.D"]) ∧
    (load files "k.json").run.run {} =
      (.ok none, { notices := [.hierarchyUnavailable (Path.ofText "k.json").text] }) := by
  intro files
  have names : ((((load files "h.json").run.run {}).1.toOption.bind id).map fun h =>
      h.listed.map fun e => Scalar.text e.1) = some [.text "a.B", .text "c.D"] := by decide +kernel
  have read : (files.readJson (Path.ofText "h.json")).toOption.isSome = true := by decide +kernel
  have missing : (files.readJson (Path.ofText "k.json")).map (fun _ => ()) =
      .error (.missingFile "k.json") := by decide +kernel
  constructor
  · have shallow : files.readJson (Path.ofText "h.json") ≠ .error .tooDeep := by
      intro deep
      rw [deep] at read
      cases read
    obtain ⟨⟨-, unavailable⟩, given⟩ := load_ends files "h.json" {} shallow
    by_cases lacking : ∀ classes, ¬Holds files (Path.ofText "h.json") classes
    · rw [unavailable lacking] at names
      cases names
    obtain ⟨classes, holds⟩ := not_forall_not.1 lacking
    obtain ⟨-, shaped, misshapen⟩ := given classes holds
    by_cases wrong : ∃ e ∈ classes, Misshapen e.2
    · rw [misshapen wrong] at names
      cases names
    obtain ⟨h, loaded, listed⟩ := shaped fun e member own => wrong ⟨e, member, own⟩
    rw [loaded] at names
    exact ⟨classes, h, holds, loaded, listed.symm.trans (Option.some.inj names)⟩
  · have shallow : files.readJson (Path.ofText "k.json") ≠ .error .tooDeep := by
      intro deep
      rw [deep] at missing
      cases missing
    refine (load_ends files "k.json" {} shallow).1.2 fun classes holds => ?_
    obtain ⟨content, chars, fields, opened, decoded, document, -⟩ := holds
    rw [readJson_eq_ok.2 ⟨content, chars, opened, decoded, document⟩] at missing
    cases missing

theorem load_number_for_names :
    let files : FileTree := ⟨[(⟨.above 0, ["h.json"]⟩,
      .file "\x7b\"classes\": \x7b\"a.B\": \x7b\"supertypes\": 1\x7d\x7d\x7d".toUTF8)]⟩
    (files.readJson (Path.ofText "h.json")).toOption.isSome = true ∧
      ((load files "h.json").run.run {}).1.map (fun _ => ()) = .error .expectedCollection := by
  decide +kernel

end Hierarchy

end DroidRoots
