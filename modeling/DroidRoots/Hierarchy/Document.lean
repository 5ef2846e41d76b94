import DroidRoots.Fault
import DroidRoots.Hierarchy.Basic
import DroidRoots.Value.Show

/-! Hierarchies from documents. The object under "classes" has an entry for each class:
an object with a superclass, interfaces and further supertypes, or a list of
supertypes. Whatever counts as missing is skipped, and so is the class itself. -/

namespace DroidRoots.Hierarchy

def presentNames (values : List Value) : List Text :=
  (values.filter Value.isPresent).map Value.shown

def namesUnder (field : Text) (fields : List (Scalar × Value)) :
    Except Fault (List Text) :=
  match Value.field? field fields with
  | none => .ok []
  | some value =>
    if !value.isPresent then .ok []
    else match value.elements? with
      | none => .error .expectedCollection
      | some values => .ok (presentNames values)

def superclass (fields : List (Scalar × Value)) : List Text :=
  match Value.field? "superclass" fields with
  | none => []
  | some value => presentNames [value]

def listedNames : Value → Except Fault (List Text)
  | .object fields => do
    let supertypes ← namesUnder "supertypes" fields
    let interfaces ← namesUnder "interfaces" fields
    return supertypes ++ interfaces ++ superclass fields
  | .list values => .ok (presentNames values)
  | _ => .ok []

/-- The entry of one class, without the class itself. -/
def entry (name : Scalar) (value : Value) : Except Fault (Text × NameSet) :=
  (listedNames value).map fun names =>
    (name.shown, .ofList (names.filter (· ≠ name.shown)))

def ofEntries : List (Text × NameSet) → List (Scalar × Value) →
    Except Fault (List (Text × NameSet))
  | done, [] => .ok done
  | done, (name, value) :: rest => do
    let (name, uppers) ← entry name value
    ofEntries (Assoc.put name uppers done) rest

def ofValue : Value → Except Fault Hierarchy
  | .object fields =>
    match Value.field? "classes" fields with
    | some (.object classes) => (ofEntries [] classes).map Hierarchy.mk
    | _ => .error .hierarchyWithoutClasses
  | _ => .error .hierarchyWithoutClasses

end DroidRoots.Hierarchy
