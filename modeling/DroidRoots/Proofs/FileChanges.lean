import DroidRoots.Files.Tree

/-! What becomes of a file tree when directories are made and a file is written. Directories come
where nothing was, and all files stay as they are; a file that is written is found at its path. -/

namespace DroidRoots

namespace FileTree
variable {t u v : FileTree} {start l : Location} {parts : List Text} {what : FileEntry}

/-- Directories were made where nothing was, and all else is as it was. -/
def Furnished (t u : FileTree) : Prop :=
  ∀ l, u.find? l = t.find? l ∨ t.find? l = none ∧ u.find? l = some .directory

namespace Furnished

protected theorem refl (t : FileTree) : Furnished t t := fun _ => .inl rfl

protected theorem trans (first : Furnished t u) (second : Furnished u v) : Furnished t v := by
  intro l
  rcases second l with same | ⟨vacant, made⟩
  · rw [same]
    exact first l
  · rcases first l with same | ⟨-, earlier⟩
    · exact .inr ⟨same ▸ vacant, made⟩
    · rw [earlier] at vacant
      cases vacant

end Furnished

theorem parts_ne_nil_of_find? (other : t.find? l ≠ some .directory) : l.parts ≠ [] := by
  intro here
  exact other (if_pos here)

theorem find?_put (other : t.find? l ≠ some .directory) (m : Location) :
    (t.put l what).find? m = if l = m then some what else t.find? m := by
  have below := parts_ne_nil_of_find? other
  rw [find?, put]
  by_cases top : m.parts = []
  · have apart : l ≠ m := by
      rintro rfl
      exact below top
    rw [if_pos top, if_neg apart, find?, if_pos top]
  · rw [if_neg top, Assoc.get?_put, find?, if_neg top]

theorem furnished_put (vacant : t.find? l = none) : Furnished t (t.put l .directory) := by
  intro m
  rw [find?_put (by rw [vacant]; exact fun same => nomatch same)]
  by_cases same : l = m
  · rw [if_pos same, ← same]
    exact .inr ⟨vacant, rfl⟩
  · rw [if_neg same]
    exact .inl rfl

theorem find?_of_walk_vacant (arrived : t.walk start parts = .vacant l) : t.find? l = none := by
  fun_induction walk t start parts with
  | case2 start held =>
    cases arrived
    exact held
  | case4 start part rest held short ih => exact ih arrived
  | case1 | case3 | case5 | case6 => cases arrived

variable {p : Path} {content : ByteArray}

end FileTree

end DroidRoots
