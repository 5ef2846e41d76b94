import DroidRoots.Text.CodePoint

/-! Finite sets of names, kept as lists that ascend by code point, so that equal sets
are equal lists and a set is written in the order it is kept. -/

namespace DroidRoots

def insertName (name : Text) : List Text → List Text
  | [] => [name]
  | x :: rest =>
    if name < x then name :: x :: rest
    else if name = x then x :: rest
    else x :: insertName name rest

theorem mem_insertName {name x : Text} {names : List Text} :
    x ∈ insertName name names ↔ x = name ∨ x ∈ names := by
  induction names with
  | nil => simp [insertName]
  | cons y rest ih =>
    simp only [insertName]
    split
    · simp
    · split
      · rename_i same
        subst same
        simp
      · simp only [List.mem_cons, ih]
        exact or_left_comm

theorem pairwise_insertName {name : Text} {names : List Text}
    (h : names.Pairwise (· < ·)) : (insertName name names).Pairwise (· < ·) := by
  induction names with
  | nil => simp [insertName]
  | cons y rest ih =>
    obtain ⟨above, tail⟩ := List.pairwise_cons.1 h
    simp only [insertName]
    split
    · rename_i low
      refine List.pairwise_cons.2 ⟨fun z hz => ?_, h⟩
      rcases List.mem_cons.1 hz with rfl | hz
      · exact low
      · exact Text.lt_trans low (above z hz)
    · split
      · exact h
      · rename_i notLow other
        refine List.pairwise_cons.2 ⟨fun z hz => ?_, ih tail⟩
        rcases mem_insertName.1 hz with rfl | hz
        · exact Decidable.byContradiction fun notHigh => other (Text.eq_of_not_lt notLow notHigh)
        · exact above z hz

theorem eraseDups_of_nodup {names : List Text} (distinct : names.Nodup) :
    names.eraseDups = names := by
  induction names with
  | nil => rfl
  | cons name rest ih =>
    obtain ⟨apart, tail⟩ := List.nodup_cons.1 distinct
    have kept : (rest.filter fun other => !other == name) = rest := by
      apply List.filter_eq_self.2
      intro other member
      have different : other ≠ name := fun same => apart (same ▸ member)
      simpa using different
    rw [List.eraseDups_cons, kept, ih tail]

structure NameSet where
  toList : List Text
  ascending : toList.Pairwise (· < ·)
  deriving DecidableEq

namespace NameSet

def empty : NameSet := ⟨[], .nil⟩

def insert (name : Text) (set : NameSet) : NameSet :=
  ⟨insertName name set.toList, pairwise_insertName set.ascending⟩

def ofList (names : List Text) : NameSet := names.foldr insert empty

def size (set : NameSet) : Nat := set.toList.length

instance : Membership Text NameSet := ⟨fun set name => name ∈ set.toList⟩

instance (name : Text) (set : NameSet) : Decidable (name ∈ set) :=
  inferInstanceAs (Decidable (name ∈ set.toList))

theorem mem_toList {name : Text} {set : NameSet} : name ∈ set.toList ↔ name ∈ set := Iff.rfl

theorem nodup_toList (set : NameSet) : set.toList.Nodup := by
  refine set.ascending.imp fun {a b} below same => ?_
  rw [same] at below
  exact Text.lt_irrefl b below

theorem eraseDups_toList (set : NameSet) : set.toList.eraseDups = set.toList :=
  eraseDups_of_nodup set.nodup_toList

@[simp] theorem mem_empty (name : Text) : name ∉ empty := List.not_mem_nil

@[simp] theorem mem_insert {name x : Text} {set : NameSet} :
    x ∈ insert name set ↔ x = name ∨ x ∈ set := mem_insertName

@[simp] theorem mem_ofList {name : Text} {names : List Text} :
    name ∈ ofList names ↔ name ∈ names := by
  induction names with
  | nil => simp [ofList]
  | cons x rest ih =>
    rw [show ofList (x :: rest) = insert x (ofList rest) from rfl, mem_insert, ih, List.mem_cons]

theorem ext_mem {a b : NameSet} (h : ∀ name, name ∈ a ↔ name ∈ b) : a = b := by
  obtain ⟨xs, hx⟩ := a
  obtain ⟨ys, hy⟩ := b
  congr 1
  induction xs generalizing ys with
  | nil =>
    cases ys with
    | nil => rfl
    | cons y ys => exact absurd ((h y).2 (List.mem_cons_self ..)) List.not_mem_nil
  | cons x xs ih =>
    cases ys with
    | nil => exact absurd ((h x).1 (List.mem_cons_self ..)) List.not_mem_nil
    | cons y ys =>
      obtain ⟨lowX, tailX⟩ := List.pairwise_cons.1 hx
      obtain ⟨lowY, tailY⟩ := List.pairwise_cons.1 hy
      have same : x = y := by
        rcases List.mem_cons.1 ((h x).1 (List.mem_cons_self ..)) with same | inY
        · exact same
        · rcases List.mem_cons.1 ((h y).2 (List.mem_cons_self ..)) with same | inX
          · exact same.symm
          · exact absurd (lowX y inX) (Text.lt_asymm (lowY x inY))
      subst same
      congr 1
      refine ih tailX ys tailY fun name => ⟨fun inX => ?_, fun inY => ?_⟩
      · rcases List.mem_cons.1 ((h name).1 (List.mem_cons_of_mem _ inX)) with same | found
        · exact absurd (same ▸ lowX name inX) (Text.lt_irrefl _)
        · exact found
      · rcases List.mem_cons.1 ((h name).2 (List.mem_cons_of_mem _ inY)) with same | found
        · exact absurd (same ▸ lowY name inY) (Text.lt_irrefl _)
        · exact found

end NameSet

end DroidRoots
