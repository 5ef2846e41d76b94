import DroidRoots.Signature

/-! Methods: a class, a name, parameters and a returned type. A method is read from a
signature in either spelling and written in the angled one. -/

namespace DroidRoots

structure Method where
  declaring : Text
  name : Text
  params : List Text := []
  returned : Text := "void"
  deriving DecidableEq, Repr

namespace Method

/-- The method of an angled signature. The class ends at the first colon. -/
def ofAngled? : Text → Option Method
  | [] => none
  | c :: rest =>
    let declaring := rest.takeWhile (· ≠ .char ':')
    let after := (rest.dropWhile (· ≠ .char ':')).drop 1
    if c ≠ '<' ∨ declaring = [] ∨ !(after.head?.any Text.isBlank) then none
    else match Subsignature.heading? (after.dropWhile Text.isBlank) with
      | none => none
      | some (returned, name, rest) =>
        (Subsignature.enclosed? [')', '>'] rest).map fun inside =>
          { declaring := Text.trim declaring, name, params := Text.items inside, returned }

def parse? (signature : Text) : Except Fault (Option Method) :=
  (Signature.angled signature).map ofAngled?

def parse (signature : Text) : Except Fault Method :=
  match parse? signature with
  | .error fault => .error fault
  | .ok none => .error (.unparseableSignature signature)
  | .ok (some method) => .ok method

def subsignature (m : Method) : Text := Subsignature.render m.name m.params m.returned

def signature (m : Method) : Text := Signature.angle m.declaring m.subsignature

end Method

end DroidRoots
