import DroidRoots.Classifier
import Mathlib.Logic.Relation

/-! The steps that an analysis takes. Each of them adds to what is known, noted or recorded
and takes nothing back: a kept closure is that of the hierarchy, a kept role is that of the
first rule that applies, and both stay as they are. -/

namespace DroidRoots

namespace Hierarchy

inductive Keeps (h : Hierarchy) (kept : Closures) : Closures → Prop
  | push (name : Text) (new : Assoc.get? name kept = none) :
      Keeps h kept ((name, h.supertypes name) :: kept)

def Grows (h : Hierarchy) : Closures → Closures → Prop := Relation.ReflTransGen h.Keeps

variable {h : Hierarchy} {kept after : Closures}

theorem closure_grows (h : Hierarchy) (kept : Closures) (name : Text) :
    h.Grows kept (h.closure kept name).2 := by
  rw [closure]
  split
  · exact .refl
  · rename_i new
    exact .single (.push name new)

theorem ask_grows (h : Hierarchy) (kept : Closures) (child parent : Text) :
    h.Grows kept (h.ask kept child parent).2 := by
  rw [ask]
  split
  · exact .refl
  · exact closure_grows h kept child

theorem Grows.faithful (grown : h.Grows kept after) (faithful : h.Faithful kept) :
    h.Faithful after := by
  induction grown with
  | refl => exact faithful
  | tail _ step ih =>
    obtain ⟨name, -⟩ := step
    intro e member
    rcases List.mem_cons.1 member with rfl | old
    · rfl
    · exact ih e old

theorem Grows.get? (grown : h.Grows kept after) {name : Text} {uppers : NameSet}
    (found : Assoc.get? name kept = some uppers) : Assoc.get? name after = some uppers := by
  induction grown with
  | refl => exact found
  | tail _ step ih =>
    obtain ⟨other, new⟩ := step
    rw [Assoc.get?_cons, if_neg, ih]
    rintro rfl
    rw [ih] at new
    cases new

end Hierarchy

namespace Classifier

def roleIn (c : Classifier) (name : Text) : Role :=
  match c.oracle with
  | none => .plain
  | some oracle => (c.rules.find? fun rule => oracle.stores name rule.2).elim .plain (·.1)

def tried (applies : Text → Bool) : List (Role × Text) → Nat
  | [] => 0
  | rule :: rest => if applies rule.2 then 1 else tried applies rest + 1

def questions (c : Classifier) (name : Text) : Nat :=
  match c.oracle with
  | none => 0
  | some oracle => tried (oracle.stores name) c.rules

def doubts (c : Classifier) (name : Text) : List Notice :=
  if c.degraded then [.assumedPlain name] else []

/-- The classifier asks this hierarchy, or an oracle that keeps no closures, or none. -/
def IsOver (c : Classifier) (h : Hierarchy) : Prop :=
  ∀ other, c.oracle = some (.hierarchy other) → other = h

theorem isOver_of_relation {c : Classifier} {stores : Text → Text → Bool}
    (asked : c.oracle = some (.relation stores)) (h : Hierarchy) : c.IsOver h := by
  intro other instead
  rw [asked] at instead
  cases instead

end Classifier

structure State.Faithful (h : Hierarchy) (c : Classifier) (s : State) : Prop where
  closures : h.Faithful s.closures
  roles : ∀ e ∈ s.roles, e.2 = c.roleIn e.1

/-- What can happen to a state from one moment to the next. -/
inductive Step (h : Hierarchy) (c : Classifier) (s : State) : State → Prop
  | look {closures : Closures} (grown : h.Grows s.closures closures) :
      Step h c s { s with closures }
  | ask {closures : Closures} (grown : h.Grows s.closures closures) :
      Step h c s { s with closures, queries := s.queries + 1 }
  | classify {closures : Closures} (name : Text) (grown : h.Grows s.closures closures)
      (new : Assoc.get? name s.roles = none) :
      Step h c s { s with
        closures
        roles := (name, c.roleIn name) :: s.roles
        queries := s.queries + c.questions name
        notices := s.notices ++ c.doubts name }
  | skip (count : Nat) :
      Step h c s { s with notices := s.notices ++ [.signaturesSkipped count] }
  | trace (current : Option Text) (spans : List Span) : Step h c s { s with current, spans }

def Steps (h : Hierarchy) (c : Classifier) : State → State → Prop :=
  Relation.ReflTransGen (Step h c)

namespace Step
variable {h : Hierarchy} {c : Classifier} {s t : State}

theorem faithful (step : Step h c s t) (right : s.Faithful h c) : t.Faithful h c := by
  cases step with
  | look grown => exact ⟨grown.faithful right.closures, right.roles⟩
  | ask grown => exact ⟨grown.faithful right.closures, right.roles⟩
  | classify name grown new =>
    refine ⟨grown.faithful right.closures, fun e member => ?_⟩
    rcases List.mem_cons.1 member with rfl | old
    · rfl
    · exact right.roles e old
  | skip count => exact ⟨right.closures, right.roles⟩
  | trace current spans => exact ⟨right.closures, right.roles⟩

theorem get?_closures (step : Step h c s t) {name : Text} {uppers : NameSet}
    (found : Assoc.get? name s.closures = some uppers) :
    Assoc.get? name t.closures = some uppers := by
  cases step with
  | look grown => exact grown.get? found
  | ask grown => exact grown.get? found
  | classify name grown new => exact grown.get? found
  | skip count => exact found
  | trace current spans => exact found

theorem get?_roles (step : Step h c s t) {name : Text} {role : Role}
    (found : Assoc.get? name s.roles = some role) : Assoc.get? name t.roles = some role := by
  cases step with
  | look grown => exact found
  | ask grown => exact found
  | classify other grown new =>
    rw [Assoc.get?_cons, if_neg, found]
    rintro rfl
    rw [found] at new
    cases new
  | skip count => exact found
  | trace current spans => exact found

end Step

namespace Steps
variable {h : Hierarchy} {c : Classifier} {s t : State}

theorem faithful (steps : Steps h c s t) (right : s.Faithful h c) : t.Faithful h c := by
  induction steps with
  | refl => exact right
  | tail _ step ih => exact step.faithful ih

theorem get?_closures (steps : Steps h c s t) {name : Text} {uppers : NameSet}
    (found : Assoc.get? name s.closures = some uppers) :
    Assoc.get? name t.closures = some uppers := by
  induction steps with
  | refl => exact found
  | tail _ step ih => exact step.get?_closures ih

theorem get?_roles (steps : Steps h c s t) {name : Text} {role : Role}
    (found : Assoc.get? name s.roles = some role) : Assoc.get? name t.roles = some role := by
  induction steps with
  | refl => exact found
  | tail _ step ih => exact step.get?_roles ih

end Steps

end DroidRoots
