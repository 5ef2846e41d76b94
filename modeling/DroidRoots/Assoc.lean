/-! Association lists with at most one entry for each key, in the order in which the
keys first came. -/

namespace DroidRoots.Assoc

variable {α β : Type} [DecidableEq α]

def get? (key : α) : List (α × β) → Option β
  | [] => none
  | (k, v) :: rest => if k = key then some v else get? key rest

/-- A known key keeps its place and takes the new value; a new one comes last. -/
def put (key : α) (value : β) : List (α × β) → List (α × β)
  | [] => [(key, value)]
  | (k, v) :: rest => if k = key then (k, value) :: rest else (k, v) :: put key value rest

@[simp] theorem get?_nil (key : α) : get? key ([] : List (α × β)) = none := rfl

theorem get?_cons (key k : α) (v : β) (rest : List (α × β)) :
    get? key ((k, v) :: rest) = if k = key then some v else get? key rest := rfl

theorem get?_put (key other : α) (value : β) (entries : List (α × β)) :
    get? other (put key value entries) =
      if key = other then some value else get? other entries := by
  induction entries with
  | nil => simp [put, get?]
  | cons e rest ih =>
    obtain ⟨k, v⟩ := e
    simp only [put]
    split
    · rename_i same
      subst same
      simp only [get?]
      split <;> rfl
    · rename_i different
      simp only [get?, ih]
      split
      · rename_i same
        subst same
        rw [if_neg (fun h => different h.symm)]
      · rfl

theorem mem_of_mem_put {key : α} {value : β} {entries : List (α × β)} {e : α × β}
    (h : e ∈ put key value entries) : e = (key, value) ∨ e ∈ entries := by
  induction entries with
  | nil => simpa [put] using h
  | cons first rest ih =>
    obtain ⟨k, v⟩ := first
    rw [put] at h
    split at h
    · rename_i same
      subst same
      rcases List.mem_cons.1 h with own | later
      · exact .inl own
      · exact .inr (List.mem_cons_of_mem _ later)
    · rcases List.mem_cons.1 h with own | later
      · exact .inr (own ▸ List.mem_cons_self ..)
      · exact (ih later).imp_right (List.mem_cons_of_mem _)

theorem map_fst_put (key : α) (value : β) (entries : List (α × β)) :
    (put key value entries).map (·.1) =
      if key ∈ entries.map (·.1) then entries.map (·.1) else entries.map (·.1) ++ [key] := by
  induction entries with
  | nil => simp [put]
  | cons e rest ih =>
    obtain ⟨k, v⟩ := e
    rw [put]
    by_cases same : k = key
    · simp [same]
    · have other : key ≠ k := Ne.symm same
      rw [if_neg same, List.map_cons, ih]
      by_cases known : key ∈ rest.map (·.1) <;> simp_all

theorem nodup_put {key : α} (value : β) {entries : List (α × β)}
    (once : (entries.map (·.1)).Nodup) : ((put key value entries).map (·.1)).Nodup := by
  rw [map_fst_put]
  split
  · exact once
  · rename_i new
    refine List.nodup_append.2 ⟨once, by simp, fun a member b own same => ?_⟩
    rw [same, List.mem_singleton.1 own] at member
    exact new member

theorem mem_of_get? {key : α} {value : β} {entries : List (α × β)}
    (h : get? key entries = some value) : (key, value) ∈ entries := by
  induction entries with
  | nil => cases h
  | cons e rest ih =>
    obtain ⟨k, v⟩ := e
    simp only [get?] at h
    split at h
    · rename_i same
      cases h
      subst same
      exact List.mem_cons_self ..
    · exact List.mem_cons_of_mem _ (ih h)

theorem get?_eq_none_iff {key : α} {entries : List (α × β)} :
    get? key entries = none ↔ key ∉ entries.map (·.1) := by
  induction entries with
  | nil => simp
  | cons e rest ih =>
    obtain ⟨k, v⟩ := e
    by_cases same : k = key
    · simp [get?_cons, same]
    · simp only [get?_cons, if_neg same, ih, List.map_cons, List.mem_cons, Ne.symm same, false_or]

theorem get?_of_mem {key : α} {value : β} {entries : List (α × β)}
    (once : (entries.map (·.1)).Nodup) (member : (key, value) ∈ entries) :
    get? key entries = some value := by
  induction entries with
  | nil => cases member
  | cons e rest ih =>
    obtain ⟨k, v⟩ := e
    obtain ⟨new, once⟩ := List.nodup_cons.1 once
    rw [get?_cons]
    rcases List.mem_cons.1 member with own | later
    · cases own
      rw [if_pos rfl]
    · have other : k ≠ key := by
        rintro rfl
        exact new (List.mem_map.2 ⟨_, later, rfl⟩)
      rw [if_neg other, ih once later]

end DroidRoots.Assoc
