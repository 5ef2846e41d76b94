import DroidRoots.Value.Basic

/-! Documents: a value with the collections in it that lead back to themselves. Such a
collection is known by a number, its knot; all other collections stand in their places. -/

namespace DroidRoots

abbrev Knots := List (Nat × Value)

structure Document where
  root : Value
  knots : Knots := []
  deriving Repr

namespace Knots

def untie (knots : Knots) : Value → Value
  | .knot number => (knots.lookup number).getD .null
  | other => other

@[simp] theorem untie_object (knots : Knots) (entries : List (Scalar × Value)) :
    untie knots (.object entries) = .object entries := rfl

/-- Reads a value whose knots are read in their turn, except inside themselves. There are
no more knots to open than a document has. -/
def unfold {α : Type} (knots : Knots) (read : (Nat → α) → Value → α) (again : Value → α) :
    Nat → List Nat → Value → α
  | 0, _, v => read (fun number => again (knots.untie (.knot number))) v
  | closed + 1, opened, v =>
    read (fun number =>
      let named := knots.untie (.knot number)
      if number ∈ opened then again named
      else unfold knots read again closed (number :: opened) named) v

def readAll {α : Type} (knots : Knots) (read : (Nat → α) → Value → α) (again : Value → α)
    (v : Value) : α :=
  unfold knots read again knots.length [] v

end Knots

namespace Document

def ofValue (v : Value) : Document := { root := v }

def top (d : Document) : Value := d.knots.untie d.root

def isPresent (d : Document) : Bool := d.root.isPresent

end Document

end DroidRoots
