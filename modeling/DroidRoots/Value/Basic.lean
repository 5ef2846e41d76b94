import DroidRoots.Number.Binary64
import DroidRoots.Text.CodePoint
import DroidRoots.Value.Moment

/-! Values of documents. An object keeps its entries in the order of their first
appearance; a key that is given again keeps its place and takes the later value. -/

namespace DroidRoots

inductive Scalar
  | null
  | bool (b : Bool)
  | int (i : Int)
  | float (x : Binary64)
  | text (s : Text)
  | moment (m : Moment)
  | bytes (b : List UInt8)
  deriving DecidableEq, Repr

namespace Scalar

def toInt? : Scalar → Option Int
  | .bool b => some (if b then 1 else 0)
  | .int i => some i
  | .float x => x.toInt?
  | _ => none

/-- Keys are the same when they are equal as numbers or as moments, or else equal. -/
def same : Scalar → Scalar → Bool
  | .float x, .float y => x.equals y
  | .moment m, .moment n => m.same n
  | a, b =>
    match a.toInt?, b.toInt? with
    | some i, some j => i = j
    | _, _ => a = b

@[simp] theorem same_text (s t : Text) : same (.text s) (.text t) = decide (s = t) := by
  simp [same, toInt?]

/-- What is null, false, zero or empty counts as missing. -/
def isPresent : Scalar → Bool
  | .null => false
  | .bool b => b
  | .int i => i ≠ 0
  | .float x => !x.isZero
  | .text s => s ≠ []
  | .moment _ => true
  | .bytes b => !b.isEmpty

end Scalar

inductive Value
  | scalar (s : Scalar)
  | list (items : List Value)
  | object (entries : List (Scalar × Value))
  | set (members : List Scalar)
  | pair (first second : Value)
  /-- A collection that leads back to itself, by the number that its document knows it by. -/
  | knot (number : Nat)
  deriving Repr

namespace Value

@[match_pattern] abbrev null : Value := .scalar .null
@[match_pattern] abbrev bool (b : Bool) : Value := .scalar (.bool b)
@[match_pattern] abbrev int (i : Int) : Value := .scalar (.int i)
@[match_pattern] abbrev float (x : Binary64) : Value := .scalar (.float x)
@[match_pattern] abbrev text (s : Text) : Value := .scalar (.text s)

def nat (n : Nat) : Value := .int n

def texts (names : List Text) : Value := .list (names.map .text)

def record (fields : List (Text × Value)) : Value :=
  .object (fields.map fun field => (.text field.1, field.2))

def isPresent : Value → Bool
  | .scalar s => s.isPresent
  | .list items => !items.isEmpty
  | .object entries => !entries.isEmpty
  | .set members => !members.isEmpty
  | .pair _ _ | .knot _ => true

@[simp] theorem isPresent_text (s : Text) : isPresent (text s) = decide (s ≠ []) := rfl

def lookup? (key : Scalar) : List (Scalar × Value) → Option Value
  | [] => none
  | (k, v) :: rest => if k.same key then some v else lookup? key rest

def put (key : Scalar) (value : Value) : List (Scalar × Value) → List (Scalar × Value)
  | [] => [(key, value)]
  | (k, v) :: rest => if k.same key then (k, value) :: rest else (k, v) :: put key value rest

theorem lookup?_put_text (s : Text) (value : Value) (entries : List (Scalar × Value)) :
    lookup? (.text s) (put (.text s) value entries) = some value := by
  induction entries with
  | nil => simp [put, lookup?]
  | cons e rest ih =>
    obtain ⟨k, v⟩ := e
    simp only [put]
    split <;> rename_i h <;> simp [lookup?, h, ih]

def ofEntries (entries : List (Scalar × Value)) : Value :=
  .object (entries.foldl (fun done e => put e.1 e.2 done) [])

def field? (name : Text) (entries : List (Scalar × Value)) : Option Value :=
  lookup? (.text name) entries

def fieldD (name : Text) (entries : List (Scalar × Value)) (default : Value) : Value :=
  (field? name entries).getD default

/-- The elements of a collection, the code points of a text, the keys of an object. -/
def elements? : Value → Option (List Value)
  | .list items => some items
  | .object entries => some (entries.map fun e => .scalar e.1)
  | .set members => some (members.map .scalar)
  | .pair first second => some [first, second]
  | .text s => some (s.map fun c => .text [c])
  | .scalar (.bytes b) => some (b.map fun byte => .int byte.toNat)
  | .scalar _ | .knot _ => none

end Value

end DroidRoots
