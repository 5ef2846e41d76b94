import DroidRoots.Text.Lower
import DroidRoots.Value.Octets
import DroidRoots.Value.Basic
import DroidRoots.Yaml.Kind

/-! What the text of a scalar means, by its kind. A tag may ask for more than a plain text
shows, so each kind reads its texts by rules of its own. -/

namespace DroidRoots.Yaml.Meaning

def withoutUnderscores (content : Text) : Text := content.filter (· ≠ .char '_')

def places? (content : Text) : Option (List Text) :=
  if .char ':' ∈ content then some (Text.pieces (.char ':') content) else none

def unsignedInt (body : Text) : Except Fault Int :=
  match body with
  | [] => .error .emptyNumber
  | [.char '0'] => .ok 0
  | .char '0' :: .char 'b' :: rest => Numeral.int 2 rest
  | .char '0' :: .char 'x' :: rest => Numeral.int 16 rest
  | .char '0' :: _ => Numeral.int 8 body
  | _ =>
    match places? body with
    | some places => do
      return (← places.mapM (Numeral.int 10)).foldl (fun n place => 60 * n + place) 0
    | none => Numeral.int 10 body

def int (content : Text) : Except Fault Int :=
  match withoutUnderscores content with
  | [] => .error .emptyNumber
  | text =>
    let (negative, body) := Numeral.signed text
    (unsignedInt body).map fun n => if negative then -n else n

/-- The sum of places of sixty, the last place first, each step rounded. -/
def sumOfSixties : Int → Binary64 → List Binary64 → Except Fault Binary64
  | _, sum, [] => .ok sum
  | base, sum, place :: rest =>
    match Binary64.ofInt base with
    | .infinite _ => .error .outOfRange
    | factor => sumOfSixties (60 * base) (sum.add (place.mul factor)) rest

def floatParts (content : Text) : Bool × Text :=
  Numeral.signed (Text.lower (withoutUnderscores content))

def isNan (content : Text) : Bool := (floatParts content).2 = ".nan"

def unsignedFloat (body : Text) : Except Fault Binary64 :=
  if body = ".inf" then .ok (.infinite false)
  else if body = ".nan" then .ok .nan
  else match places? body with
    | some places => do
      sumOfSixties 1 (.zero false) (← places.mapM Numeral.float).reverse
    | none => Numeral.float body

def float (content : Text) : Except Fault Binary64 :=
  if withoutUnderscores content = [] then .error .emptyNumber
  else
    let (negative, body) := floatParts content
    (unsignedFloat body).map fun x => if negative then x.negate else x

def bool (content : Text) : Except Fault Bool :=
  let word := Text.lower content
  if word = "yes" ∨ word = "true" ∨ word = "on" then .ok true
  else if word = "no" ∨ word = "false" ∨ word = "off" then .ok false
  else .error .unknownTruth

def bytes (content : Text) : Except Fault (List UInt8) :=
  match content.chars? with
  | none => .error .malformedYaml
  | some cs =>
    if cs.any (128 ≤ ·.toNat) then .error .malformedYaml
    else match Octets.ofBase64? cs with
      | some bytes => .ok bytes
      | none => .error .malformedYaml

def moment (content : Text) : Except Fault Moment :=
  match content.chars?.bind fun cs => Kind.momentParts? (Kind.beforeLineEnd cs) with
  | none => .error .unreadableMoment
  | some m =>
    match m.objection? with
    | none => .ok m
    | some reason => .error (.nonexistent reason)

def ofText (kind : Kind) (content : Text) : Except Fault Scalar :=
  match kind with
  | .null => .ok .null
  | .bool => (bool content).map .bool
  | .int => (int content).map .int
  | .float => (float content).map .float
  | .bytes => (bytes content).map .bytes
  | .moment => (moment content).map .moment
  | .text => .ok (.text content)
  | _ => .error .malformedYaml

end DroidRoots.Yaml.Meaning
