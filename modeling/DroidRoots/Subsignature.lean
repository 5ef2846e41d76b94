import DroidRoots.Text.Blank

/-! Subsignatures: a returned type, a name, and parameters between parentheses.
The canonical form has one space after the returned type and no other blank
around its parts. -/

namespace DroidRoots.Subsignature
open Text

def render (name : Text) (params : List Text) (returned : Text) : Text :=
  trim returned ++ .char ' ' :: trim name ++
    .char '(' :: join [','] (params.map trim) ++ [.char ')']

def isNameChar (c : CodePoint) : Bool := c ≠ '(' && !isBlank c

def heading? (cs : Text) : Option (Text × Text × Text) :=
  let returned := cs.takeWhile fun c => !isBlank c
  let after := (cs.dropWhile fun c => !isBlank c).dropWhile isBlank
  let name := after.takeWhile isNameChar
  if returned = [] ∨ name = [] then none
  else some (returned, name, after.dropWhile isNameChar)

def enclosed? (closing : Text) : Text → Option (Text)
  | [] => none
  | c :: rest =>
    let inside := rest.take (rest.length - closing.length)
    if c = '(' ∧ rest = inside ++ closing ∧ .char '\n' ∉ inside then some inside else none

theorem enclosed?_eq_some_iff {closing cs inside : Text} :
    enclosed? closing cs = some inside ↔
      cs = .char '(' :: (inside ++ closing) ∧ .char '\n' ∉ inside := by
  cases cs with
  | nil => simp [enclosed?]
  | cons c rest =>
    simp only [enclosed?]
    constructor
    · intro h
      split at h
      · rename_i cut
        cases h
        exact ⟨by rw [cut.1, ← cut.2.1], cut.2.2⟩
      · cases h
    · rintro ⟨whole, line⟩
      obtain ⟨rfl, rfl⟩ := List.cons.inj whole
      simp [line]

/-- A text of another form is only trimmed. -/
def canonical (cs : Text) : Text :=
  let text := trim cs
  match heading? text with
  | none => text
  | some (returned, name, rest) =>
    match enclosed? [')'] (rest.dropWhile isBlank) with
    | none => text
    | some inside => render name (items inside) returned

end DroidRoots.Subsignature
