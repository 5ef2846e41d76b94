import DroidRoots.CallGraph
import DroidRoots.Catalog
import DroidRoots.Classifier
import DroidRoots.Method

/-! Entry points: the methods that the framework calls. A method is one if its class has
a role with a table and the method's subsignature is in that table. -/

namespace DroidRoots.EntryPoint

def isEntryPoint (c : Classifier) (k : Catalog) (m : Method) : StateM State Bool := do
  let role ← c.roleOf m.declaring
  pure (role.hasTable && k.contains role m.subsignature)

def isEntrySignature (c : Classifier) (k : Catalog) (signature : Text) : Analysis Bool := do
  let m ← Analysis.ofExcept (Method.parse signature)
  isEntryPoint c k m

def isEntryMethod (c : Classifier) (k : Catalog) : Option Method → Analysis Bool
  | none => throw .noMethod
  | some m => isEntryPoint c k m

structure Selection where
  chosen : NameSet
  unparsed : Nat

/-- Goes through the mentioned methods in order. What is missing is skipped; what is no
text ends the selection. -/
def select (c : Classifier) (k : Catalog) (found : Selection) :
    List Mention → Analysis Selection
  | [] => pure found
  | mention :: rest => do
    match ← Analysis.ofExcept mention.signature? with
    | none => select c k found rest
    | some signature =>
      match Method.parse signature with
      | .error _ => select c k { found with unparsed := found.unparsed + 1 } rest
      | .ok m =>
        if ← isEntryPoint c k m then
          select c k { found with chosen := found.chosen.insert m.signature } rest
        else select c k found rest

def selectFrom (c : Classifier) (k : Catalog) (mentions : List Mention) : Analysis Selection :=
  select c k { chosen := .empty, unparsed := 0 } mentions

def filter (c : Classifier) (k : Catalog) (value : Value) : Analysis NameSet :=
  match Mention.ofElements? value with
  | none => throw .expectedCollection
  | some mentions => do
    let selection ← selectFrom c k mentions
    pure selection.chosen

end DroidRoots.EntryPoint
