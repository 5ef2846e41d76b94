import DroidRoots.Number.Layout
import DroidRoots.Number.Numeral
import DroidRoots.Value.Document
import DroidRoots.Value.Octets

/-! Values as one line of text. A text stands for itself; inside a collection it
is quoted. A collection inside itself is three dots between its brackets. -/

namespace DroidRoots

def Scalar.inside : Scalar → Text
  | .null => "None"
  | .bool b => if b then "True" else "False"
  | .int i => Text.ofInt i
  | .float x => Layout.report.text x
  | .text s => Text.quoted s
  | .moment m => m.constructed
  | .bytes b => Octets.quoted b

def Scalar.shown : Scalar → Text
  | .text s => s
  | .moment m => m.text
  | other => other.inside

def Scalar.isWritable : Scalar → Bool
  | .int i => Numeral.isWritable i
  | _ => true

namespace Value

mutual

def inside (knot : Nat → Text) : Value → Text
  | .scalar s => s.inside
  | .list items => "[" ++ Text.join ", " (insideItems knot items) ++ "]"
  | .object entries => "\x7b" ++ Text.join ", " (insideEntries knot entries) ++ "\x7d"
  | .set [] => "set()"
  | .set members => "\x7b" ++ Text.join ", " (members.map Scalar.inside) ++ "\x7d"
  | .pair first second => "(" ++ inside knot first ++ ", " ++ inside knot second ++ ")"
  | .knot number => knot number

def insideItems (knot : Nat → Text) : List Value → List Text
  | [] => []
  | v :: rest => inside knot v :: insideItems knot rest

def insideEntries (knot : Nat → Text) : List (Scalar × Value) → List Text
  | [] => []
  | (k, v) :: rest => (k.inside ++ ": " ++ inside knot v) :: insideEntries knot rest

end

mutual

def isWritable (knot : Nat → Bool) : Value → Bool
  | .scalar s => s.isWritable
  | .list items => areWritable knot items
  | .object entries => areEntriesWritable knot entries
  | .set members => members.all Scalar.isWritable
  | .pair first second => isWritable knot first && isWritable knot second
  | .knot number => knot number

def areWritable (knot : Nat → Bool) : List Value → Bool
  | [] => true
  | v :: rest => isWritable knot v && areWritable knot rest

def areEntriesWritable (knot : Nat → Bool) : List (Scalar × Value) → Bool
  | [] => true
  | (k, v) :: rest => k.isWritable && isWritable knot v && areEntriesWritable knot rest

end

def dots : Value → Text
  | .list _ => "[...]"
  | _ => "\x7b...\x7d"

def shownIn (knots : Knots) : Value → Text
  | .scalar s => s.shown
  | other => knots.readAll inside dots other

def shown (v : Value) : Text := v.shownIn []

def written (knots : Knots) (v : Value) : Except Fault Text :=
  if knots.readAll isWritable (fun _ => true) v then .ok (v.shownIn knots)
  else .error .unwritableInteger

end Value

end DroidRoots
