import DroidRoots.Analysis

/-! Computations that ended well. A chain of computations gave a result exactly if each of
them did, and a list of results was collected exactly from what its elements gave. What a
computation ensures of its result, it ensures in every state. -/

namespace DroidRoots

namespace Outcome

variable {ε α β : Type}

theorem bind_ok {x : Except ε α} {f : α → Except ε β} {b : β} (h : x >>= f = .ok b) :
    ∃ a, x = .ok a ∧ f a = .ok b := by
  cases x with
  | error fault => cases h
  | ok a => exact ⟨a, rfl, h⟩

theorem bind_error {x : Except ε α} {f : α → Except ε β} {fault : ε} (h : x >>= f = .error fault) :
    x = .error fault ∨ ∃ a, x = .ok a ∧ f a = .error fault := by
  cases x with
  | error other => exact .inl (congrArg Except.error (Except.error.inj h))
  | ok a => exact .inr ⟨a, rfl, h⟩

theorem map_ok {x : Except ε α} {f : α → β} {b : β} (h : x.map f = .ok b) :
    ∃ a, x = .ok a ∧ f a = b := by
  cases x with
  | error fault => cases h
  | ok a => exact ⟨a, rfl, Except.ok.inj h⟩

theorem eq_ok_of_toOption {x : Except ε α} {a : α} (h : x.toOption = some a) : x = .ok a := by
  cases x with
  | error fault => cases h
  | ok b => exact congrArg Except.ok (Option.some.inj h)

theorem mem_mapM {f : α → Except ε β} {xs : List α} {ys : List β} (h : xs.mapM f = .ok ys) {y : β} :
    y ∈ ys ↔ ∃ x ∈ xs, f x = .ok y := by
  induction xs generalizing ys with
  | nil =>
    obtain rfl : [] = ys := Except.ok.inj h
    simp
  | cons x rest ih =>
    rw [List.mapM_cons] at h
    obtain ⟨first, own, h⟩ := bind_ok h
    obtain ⟨others, more, h⟩ := bind_ok h
    obtain rfl : first :: others = ys := Except.ok.inj h
    rw [List.mem_cons, ih more]
    constructor
    · rintro (rfl | ⟨z, member, found⟩)
      · exact ⟨x, List.mem_cons_self .., own⟩
      · exact ⟨z, List.mem_cons_of_mem _ member, found⟩
    · rintro ⟨z, member, found⟩
      rcases List.mem_cons.1 member with rfl | member
      · rw [own] at found
        exact .inl (Except.ok.inj found).symm
      · exact .inr ⟨z, member, found⟩

theorem exists_of_mapM {f : α → Except ε β} {xs : List α} {ys : List β} (h : xs.mapM f = .ok ys) :
    ∀ x ∈ xs, ∃ y, f x = .ok y := by
  induction xs generalizing ys with
  | nil => exact fun x member => absurd member List.not_mem_nil
  | cons x rest ih =>
    rw [List.mapM_cons] at h
    obtain ⟨first, own, h⟩ := bind_ok h
    obtain ⟨others, more, -⟩ := bind_ok h
    intro z member
    rcases List.mem_cons.1 member with rfl | later
    · exact ⟨first, own⟩
    · exact ih more z later

theorem exists_mapM {f : α → Except ε β} {xs : List α} (each : ∀ x ∈ xs, ∃ y, f x = .ok y) :
    ∃ ys, xs.mapM f = .ok ys := by
  induction xs with
  | nil => exact ⟨[], rfl⟩
  | cons x rest ih =>
    obtain ⟨y, own⟩ := each x (List.mem_cons_self ..)
    obtain ⟨others, more⟩ := ih fun z member => each z (List.mem_cons_of_mem _ member)
    refine ⟨y :: others, ?_⟩
    rw [List.mapM_cons, own, more]
    rfl

theorem mapM_congr {f g : α → Except ε β} {xs : List α} (same : ∀ x ∈ xs, f x = g x) :
    xs.mapM f = xs.mapM g := by
  induction xs with
  | nil => rfl
  | cons x rest ih =>
    rw [List.mapM_cons, List.mapM_cons, same x (List.mem_cons_self ..),
      ih fun y member => same y (List.mem_cons_of_mem _ member)]

theorem mapM_error {f : α → Except ε β} {xs : List α} {fault : ε} (h : xs.mapM f = .error fault) :
    ∃ before x after, xs = before ++ x :: after ∧ f x = .error fault ∧
      ∀ y ∈ before, ∃ b, f y = .ok b := by
  induction xs with
  | nil => cases h
  | cons x rest ih =>
    rw [List.mapM_cons] at h
    rcases bind_error h with own | ⟨b, own, h⟩
    · exact ⟨[], x, rest, rfl, own, fun y member => absurd member List.not_mem_nil⟩
    · rcases bind_error h with later | ⟨others, -, h⟩
      · obtain ⟨before, y, after, rfl, failed, earlier⟩ := ih later
        refine ⟨x :: before, y, after, rfl, failed, fun z member => ?_⟩
        rcases List.mem_cons.1 member with rfl | member
        · exact ⟨b, own⟩
        · exact earlier z member
      · cases h

theorem mapM_append_error {f : α → Except ε β} {before after : List α} {x : α} {fault : ε}
    (fine : ∀ y ∈ before, ∃ b, f y = .ok b) (failed : f x = .error fault) :
    (before ++ x :: after).mapM f = .error fault := by
  obtain ⟨ys, earlier⟩ := exists_mapM fine
  rw [List.mapM_append, earlier, List.mapM_cons, failed]
  rfl

theorem mem_filterMap_mapM {f : α → Except ε (Option β)} {xs : List α} {ys : List β}
    (h : (xs.mapM f).map (·.filterMap id) = .ok ys) {y : β} :
    y ∈ ys ↔ ∃ x ∈ xs, f x = .ok (some y) := by
  obtain ⟨all, collected, rfl⟩ := map_ok h
  simp [mem_mapM collected]

end Outcome

theorem Analysis.state_bind_run {α β : Type} {x : StateM State α} {f : α → StateM State β}
    {s : State} : (x >>= f).run s = (f (x.run s).1).run (x.run s).2 := rfl

/-- Whatever state a computation starts in, a result that it gives has the property. -/
def Ensures {α : Type} (x : Analysis α) (P : α → Prop) : Prop :=
  ∀ s a, (x.run.run s).1 = .ok a → P a

namespace Ensures

variable {α β : Type} {x : Analysis α} {f : α → Analysis β} {P : α → Prop} {Q : β → Prop}

theorem ofExcept (outcome : Except Fault α) :
    Ensures (Analysis.ofExcept outcome) fun a => outcome = .ok a := by
  intro s a ended
  cases outcome with
  | ok b => exact ended
  | error fault => cases ended

protected theorem pure {a : α} (holds : P a) : Ensures (pure a) P := by
  intro s b ended
  cases ended
  exact holds

protected theorem bind (first : Ensures x P) (next : ∀ a, P a → Ensures (f a) Q) :
    Ensures (x >>= f) Q := by
  intro s b ended
  rw [ExceptT.run_bind, Analysis.state_bind_run] at ended
  cases found : (x.run.run s).1 with
  | error fault =>
    rw [found] at ended
    cases ended
  | ok a =>
    rw [found] at ended
    exact next a (first s a found) _ b ended

theorem lift_bind {y : StateM State α} (next : ∀ a, Ensures (f a) Q) :
    Ensures ((liftM y : Analysis α) >>= f) Q := by
  intro s b ended
  rw [ExceptT.run_bind] at ended
  exact next (y.run s).1 (y.run s).2 b ended

theorem inSpan {name : Text} {attributes : List (Text × Value)} (inner : Ensures x P) :
    Ensures (Analysis.inSpan name attributes x) P := by
  intro s a ended
  exact inner { s with current := some name } a ended

end Ensures

end DroidRoots
