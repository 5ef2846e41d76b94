import DroidRoots.Text.Blank

/-! Type and method descriptors of the class file format and the Java names
that they stand for. A type descriptor is a run of array marks followed by a
primitive letter or a class between an L and a semicolon; a method descriptor
holds its parameters between parentheses, then the type that it returns. -/

namespace DroidRoots.Descriptor

def primitive? : CodePoint → Option Text
  | .char 'V' => some "void"
  | .char 'Z' => some "boolean"
  | .char 'B' => some "byte"
  | .char 'S' => some "short"
  | .char 'C' => some "char"
  | .char 'I' => some "int"
  | .char 'J' => some "long"
  | .char 'F' => some "float"
  | .char 'D' => some "double"
  | _ => none

def dotted (cs : Text) : Text := cs.map fun c => if c = .char '/' then .char '.' else c

/-- The name of a type without array marks; a text of no known form names itself. -/
def elementName (cs : Text) : Text :=
  match cs with
  | [] => []
  | c :: rest =>
    match rest, primitive? c with
    | [], some name => name
    | _, _ => if c = 'L' ∧ rest.getLast? = some (.char ';') then dotted rest.dropLast else cs

def javaName : Text → Text
  | [] => []
  | c :: rest =>
    if c = '[' then javaName rest ++ [.char '[', .char ']'] else elementName (c :: rest)

def firstType? : Text → Option (Text × Text)
  | [] => none
  | c :: rest =>
    if c = '[' then (firstType? rest).map fun (type, after) => (c :: type, after)
    else if c = 'L' then
      match rest.dropWhile (· ≠ .char ';') with
      | [] => none
      | mark :: after => some (c :: rest.takeWhile (· ≠ .char ';') ++ [mark], after)
    else some ([c], rest)

theorem length_of_firstType? {cs type after : Text}
    (h : firstType? cs = some (type, after)) : after.length < cs.length := by
  induction cs generalizing type after with
  | nil => simp [firstType?] at h
  | cons c rest ih =>
    rw [firstType?] at h
    split at h
    · obtain ⟨⟨t, a⟩, found, same⟩ := Option.map_eq_some_iff.1 h
      cases same
      have := ih found
      simp only [List.length_cons]
      omega
    · split at h
      · split at h
        · cases h
        · rename_i mark tail cut
          cases h
          have := (List.dropWhile_suffix (p := (· ≠ .char ';')) (l := rest)).length_le
          simp only [cut, List.length_cons] at this ⊢
          omega
      · cases h
        simp

def types? (cs : Text) : Option (List Text) :=
  if cs.isEmpty then some []
  else match h : firstType? cs with
    | none => none
    | some (type, after) =>
      have := length_of_firstType? h
      (types? after).map (type :: ·)
termination_by cs.length

/-- The Java names of the parameters and of the returned type. The parameters
end at the first closing parenthesis; the rest is the returned type, which may
not be empty. -/
def method? : Text → Option (List Text × Text)
  | [] => none
  | c :: rest =>
    if c ≠ '(' then none
    else match rest.dropWhile (· ≠ .char ')') with
      | [] => none
      | _ :: returned =>
        if returned.isEmpty then none
        else (types? (rest.takeWhile (· ≠ .char ')'))).map fun types =>
          (types.map javaName, javaName returned)

end DroidRoots.Descriptor
