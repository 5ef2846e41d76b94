import DroidRoots.Assoc
import DroidRoots.Value.Basic

/-! Looking up and setting the entries of objects. Keys may be the same without being equal, but a
text is the same as itself only. -/

namespace DroidRoots

theorem Scalar.same_text_right (k : Scalar) (s : Text) :
    k.same (.text s) = decide (k = .text s) := by
  cases k <;> simp [same, toInt?]

theorem Scalar.same_text_left (s : Text) (k : Scalar) :
    (Scalar.text s).same k = decide (k = .text s) := by
  cases k <;> simp [same, toInt?, eq_comm]

namespace Value
variable {key : Scalar} {entries : List (Scalar × Value)}

theorem lookup?_append (key : Scalar) (entries others : List (Scalar × Value)) :
    lookup? key (entries ++ others) = (lookup? key entries).or (lookup? key others) := by
  induction entries with
  | nil => rfl
  | cons e rest ih =>
    simp only [List.cons_append, lookup?]
    split
    · rfl
    · exact ih

theorem lookup?_eq_none (other : ∀ e ∈ entries, e.1.same key = false) :
    lookup? key entries = none := by
  induction entries with
  | nil => rfl
  | cons e rest ih =>
    obtain ⟨own, later⟩ := List.forall_mem_cons.1 other
    rw [lookup?, own, if_neg (by simp), ih later]

theorem lookup?_of_texts (texts : ∀ e ∈ entries, ∃ s, e.1 = .text s)
    (other : ¬ ∃ s, key = .text s) : lookup? key entries = none := by
  refine lookup?_eq_none fun e member => ?_
  obtain ⟨s, text⟩ := texts e member
  rw [text, Scalar.same_text_left, decide_eq_false_iff_not]
  exact fun own => other ⟨s, own⟩

theorem put_of_new (value : Value) (new : ∀ e ∈ entries, e.1.same key = false) :
    put key value entries = entries ++ [(key, value)] := by
  induction entries with
  | nil => rfl
  | cons e rest ih =>
    obtain ⟨own, later⟩ := List.forall_mem_cons.1 new
    rw [put, own, if_neg (by simp), ih later, List.cons_append]

theorem lookup?_put (s : Text) (value : Value) (key : Scalar) (entries : List (Scalar × Value)) :
    lookup? key (put (.text s) value entries) =
      if key = .text s then some value else lookup? key entries := by
  induction entries with
  | nil => simp [put, lookup?, Scalar.same_text_left]
  | cons e rest ih =>
    obtain ⟨k, v⟩ := e
    by_cases own : k = .text s
    · subst own
      simp only [put, Scalar.same_text_left, lookup?]
      by_cases same : key = .text s <;> simp [lookup?, Scalar.same_text_left, same]
    · simp only [put, Scalar.same_text_right, own, decide_false, Bool.false_eq_true, if_false,
        lookup?, ih]
      by_cases same : key = .text s
      · simp [same, Scalar.same_text_right, own]
      · simp [same]

theorem mem_put {value : Value} {e : Scalar × Value} (member : e ∈ put key value entries) :
    e.1 = key ∨ ∃ own ∈ entries, own.1 = e.1 := by
  induction entries with
  | nil => exact .inl (congrArg Prod.fst (List.mem_singleton.1 member))
  | cons first rest ih =>
    rw [put] at member
    split at member
    · rcases List.mem_cons.1 member with rfl | later
      · exact .inr ⟨first, List.mem_cons_self .., rfl⟩
      · exact .inr ⟨e, List.mem_cons_of_mem _ later, rfl⟩
    · rcases List.mem_cons.1 member with rfl | later
      · exact .inr ⟨first, List.mem_cons_self .., rfl⟩
      · rcases ih later with same | ⟨own, old, same⟩
        · exact .inl same
        · exact .inr ⟨own, List.mem_cons_of_mem _ old, same⟩

theorem put_text (s : Text) (value : Value) (entries : List (Scalar × Value)) :
    put (.text s) value entries = Assoc.put (.text s) value entries := by
  induction entries with
  | nil => rfl
  | cons e rest ih =>
    obtain ⟨k, v⟩ := e
    simp only [put, Assoc.put, Scalar.same_text_right, decide_eq_true_eq, ih]

theorem mem_of_lookup? {v : Value} (found : lookup? key entries = some v) :
    ∃ e ∈ entries, e.2 = v := by
  induction entries with
  | nil => cases found
  | cons e rest ih =>
    obtain ⟨k, own⟩ := e
    rw [lookup?] at found
    split at found
    · cases found
      exact ⟨_, List.mem_cons_self .., rfl⟩
    · obtain ⟨e, member, same⟩ := ih found
      exact ⟨e, List.mem_cons_of_mem _ member, same⟩

theorem field?_filter (keeps : Scalar → Bool) (name : Text) (fields : List (Scalar × Value)) :
    field? name (fields.filter fun e => keeps e.1) =
      if keeps (.text name) then field? name fields else none := by
  simp only [field?]
  induction fields with
  | nil => simp [lookup?]
  | cons e rest ih =>
    obtain ⟨key, value⟩ := e
    rw [List.filter_cons]
    by_cases same : key = .text name
    · subst same
      by_cases kept : keeps (.text name) = true <;> simp_all [lookup?]
    · by_cases kept : keeps key = true <;> simp_all [lookup?, Scalar.same_text_right]

theorem field?_map (f : Value → Value) (name : Text) (fields : List (Scalar × Value)) :
    field? name (fields.map fun e => (e.1, f e.2)) = (field? name fields).map f := by
  simp only [field?]
  induction fields with
  | nil => rfl
  | cons e rest ih =>
    simp only [List.map_cons, lookup?, ih]
    split <;> rfl

end Value

end DroidRoots
