import DroidRoots.Hierarchy.Document
import DroidRoots.Proofs.CallGraphEntries
import DroidRoots.Proofs.Subtyping

/-! What a document lists. Each class has one entry, and an entry gives supertypes as a list, or
as a superclass, interfaces and further supertypes. A hierarchy that was read from a document
lists what the entries give and nothing else, so the spelling of an entry makes no difference. -/

namespace DroidRoots.Hierarchy

/-- The entry of a class: the last one whose key is its name. -/
def entryIn? (name : Text) : List (Scalar × Value) → Option Value
  | [] => none
  | (key, value) :: rest => (entryIn? name rest).or (if key.shown = name then some value else none)

inductive Offers : Value → Value → Prop
  | element {items : List Value} {value : Value} (member : value ∈ items) :
      Offers (.list items) value
  | superclass {fields : List (Scalar × Value)} {value : Value}
      (found : Value.field? "superclass" fields = some value) : Offers (.object fields) value
  | gathered {fields : List (Scalar × Value)} {field : Text} {collection value : Value}
      {values : List Value} (plural : field = "supertypes" ∨ field = "interfaces")
      (found : Value.field? field fields = some collection)
      (held : collection.elements? = some values) (member : value ∈ values) :
      Offers (.object fields) value

def entryOf? (name : Text) : Value → Option Value
  | .object fields =>
    match Value.field? "classes" fields with
    | some (.object classes) => entryIn? name classes
    | _ => none
  | _ => none

/-- A document lists one class as a supertype of another: not of itself, and not an empty name. -/
def Names (document : Value) (name upper : Text) : Prop :=
  upper ≠ name ∧ ∃ entry value, entryOf? name document = some entry ∧ Offers entry value ∧
    value.isPresent = true ∧ upper = value.shown

section Entries
variable {entry : Value} {names : List Text} {upper : Text}

theorem mem_presentNames {values : List Value} :
    upper ∈ presentNames values ↔
      ∃ value ∈ values, value.isPresent = true ∧ upper = value.shown := by
  simp only [presentNames, List.mem_map, List.mem_filter, and_assoc, eq_comm (a := upper)]

theorem mem_namesUnder {field : Text} {fields : List (Scalar × Value)}
    (read : namesUnder field fields = .ok names) :
    upper ∈ names ↔ ∃ collection values value, Value.field? field fields = some collection ∧
      collection.elements? = some values ∧ value ∈ values ∧ value.isPresent = true ∧
      upper = value.shown := by
  unfold namesUnder at read
  split at read
  · rename_i absent
    cases read
    simp [absent]
  · rename_i collection found
    split at read
    · rename_i missing
      cases read
      have hollow (values : List Value) (held : collection.elements? = some values) : values = [] :=
        Value.elements?_of_missing (by simpa using missing) held
      simp only [List.not_mem_nil, found, false_iff]
      rintro ⟨_, values, value, ⟨⟩, held, member, -⟩
      rw [hollow values held] at member
      cases member
    · split at read
      · cases read
      · rename_i values held
        cases read
        simp [mem_presentNames, found, held]

theorem mem_superclass {fields : List (Scalar × Value)} :
    upper ∈ superclass fields ↔ ∃ value, Value.field? "superclass" fields = some value ∧
      value.isPresent = true ∧ upper = value.shown := by
  rw [superclass]
  cases Value.field? "superclass" fields with
  | none => simp
  | some value => simp [mem_presentNames]

theorem mem_listedNames (read : listedNames entry = .ok names) :
    upper ∈ names ↔ ∃ value, Offers entry value ∧ value.isPresent = true ∧ upper = value.shown := by
  unfold listedNames at read
  split at read
  · rename_i fields
    obtain ⟨supertypes, first, read⟩ := Outcome.bind_ok read
    obtain ⟨interfaces, second, read⟩ := Outcome.bind_ok read
    cases read
    rw [List.mem_append, List.mem_append, mem_namesUnder first, mem_namesUnder second,
      mem_superclass]
    constructor
    · rintro ((⟨_, _, value, found, held, member, present, named⟩ |
        ⟨_, _, value, found, held, member, present, named⟩) | ⟨value, found, present, named⟩)
      · exact ⟨value, .gathered (.inl rfl) found held member, present, named⟩
      · exact ⟨value, .gathered (.inr rfl) found held member, present, named⟩
      · exact ⟨value, .superclass found, present, named⟩
    · rintro ⟨value, offered, present, named⟩
      cases offered with
      | superclass found => exact .inr ⟨value, found, present, named⟩
      | gathered plural found held member =>
        rcases plural with rfl | rfl
        · exact .inl (.inl ⟨_, _, value, found, held, member, present, named⟩)
        · exact .inl (.inr ⟨_, _, value, found, held, member, present, named⟩)
  · rename_i values
    cases read
    rw [mem_presentNames]
    constructor
    · rintro ⟨value, member, present, named⟩
      exact ⟨value, .element member, present, named⟩
    · rintro ⟨value, offered, present, named⟩
      cases offered with
      | element member => exact ⟨value, member, present, named⟩
  · rename_i noObject noList
    cases read
    simp only [List.not_mem_nil, false_iff]
    rintro ⟨value, offered, -⟩
    cases offered with
    | element member => exact noList _ rfl
    | superclass found => exact noObject _ rfl
    | gathered plural found held member => exact noObject _ rfl

end Entries

variable {done listed : List (Text × NameSet)} {classes : List (Scalar × Value)} {name : Text}

theorem nodup_ofEntries (read : ofEntries done classes = .ok listed)
    (once : (done.map (·.1)).Nodup) : (listed.map (·.1)).Nodup := by
  induction classes generalizing done with
  | nil =>
    cases read
    exact once
  | cons first rest ih =>
    obtain ⟨own, -, read⟩ := Outcome.bind_ok read
    exact ih read (Assoc.nodup_put own.2 once)

theorem get?_ofEntries (read : ofEntries done classes = .ok listed) (name : Text) :
    (entryIn? name classes = none ∧ Assoc.get? name listed = Assoc.get? name done) ∨
    ∃ entry names, entryIn? name classes = some entry ∧ listedNames entry = .ok names ∧
      Assoc.get? name listed = some (.ofList (names.filter (· ≠ name))) := by
  induction classes generalizing done with
  | nil =>
    cases read
    exact .inl ⟨rfl, rfl⟩
  | cons first rest ih =>
    obtain ⟨key, value⟩ := first
    obtain ⟨own, found, read⟩ := Outcome.bind_ok read
    obtain ⟨names, taken, rfl⟩ := Outcome.map_ok found
    rw [entryIn?]
    rcases ih read with ⟨absent, kept⟩ | ⟨entry, later, given, taken, kept⟩
    · rw [Assoc.get?_put] at kept
      by_cases same : key.shown = name
      · subst same
        exact .inr ⟨value, names, by simp [absent], taken, by simpa using kept⟩
      · exact .inl ⟨by simp [absent, same], by simpa [same] using kept⟩
    · exact .inr ⟨entry, later, by simp [given], taken, kept⟩

variable {document : Value} {h : Hierarchy} {upper : Text}

theorem exists_classes (read : ofValue document = .ok h) : ∃ classes,
    (∀ name, entryOf? name document = entryIn? name classes) ∧
      ofEntries [] classes = .ok h.listed := by
  unfold ofValue at read
  split at read
  · rename_i fields
    split at read
    · rename_i classes found
      obtain ⟨listed, collected, rfl⟩ := Outcome.map_ok read
      exact ⟨classes, fun name => by simp [entryOf?, found], collected⟩
    · cases read
  · cases read

theorem nodup_listed (read : ofValue document = .ok h) : (h.listed.map (·.1)).Nodup := by
  obtain ⟨classes, -, collected⟩ := exists_classes read
  exact nodup_ofEntries collected .nil

theorem mem_listed (read : ofValue document = .ok h) {uppers : NameSet} :
    (name, uppers) ∈ h.listed ↔ Assoc.get? name h.listed = some uppers :=
  ⟨Assoc.get?_of_mem (nodup_listed read), Assoc.mem_of_get?⟩

theorem get?_listed (read : ofValue document = .ok h) (name : Text) :
    (entryOf? name document = none ∧ Assoc.get? name h.listed = none) ∨
    ∃ entry names, entryOf? name document = some entry ∧ listedNames entry = .ok names ∧
      Assoc.get? name h.listed = some (.ofList (names.filter (· ≠ name))) := by
  obtain ⟨classes, same, collected⟩ := exists_classes read
  rw [same]
  exact get?_ofEntries collected name

theorem mem_map_listed (read : ofValue document = .ok h) :
    name ∈ h.listed.map (·.1) ↔ (entryOf? name document).isSome = true := by
  have given : name ∈ h.listed.map (·.1) ↔ ∃ uppers, Assoc.get? name h.listed = some uppers := by
    simp [← mem_listed read]
  rw [given]
  rcases get?_listed read name with ⟨absent, none⟩ | ⟨entry, names, found, taken, some⟩
  · simp [absent, none]
  · simp [found, some]

theorem lists_iff_names (read : ofValue document = .ok h) :
    h.Lists name upper ↔ Names document name upper := by
  simp only [Lists, mem_listed read, Names]
  rcases get?_listed read name with ⟨absent, none⟩ | ⟨entry, names, found, taken, some⟩
  · simp [absent, none]
  · simp [found, some, mem_listedNames taken, and_comm]

end DroidRoots.Hierarchy
