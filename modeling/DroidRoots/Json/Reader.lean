import DroidRoots.Fault
import DroidRoots.Json.Token
import DroidRoots.Number.Numeral

/-! JSON texts as values. A machine with a stack of open collections reads one token
at a time, so of several faults the first in the text is found. -/

namespace DroidRoots.Json

/-- An open collection with what it holds so far, last first. An open object also
has the key whose value is being read. -/
inductive Frame
  | list (done : List Value)
  | object (done : List (Scalar × Value)) (key : Scalar)

inductive State
  | value (stack : List Frame)
  | firstItem (stack : List Frame)
  | firstKey (stack : List Frame)
  | key (done : List (Scalar × Value)) (stack : List Frame)
  | colon (done : List (Scalar × Value)) (key : Scalar) (stack : List Frame)
  | after (value : Value) (stack : List Frame)

/-- How many collections may be open inside one another. -/
def deepest : Nat := 990

def enter (stack : List Frame) (state : State) : Except Fault State :=
  if stack.length < deepest then .ok state else .error .tooDeep

def start (stack : List Frame) : Token → Except Fault State
  | .scalar s => .ok (.after (.scalar s) stack)
  | .int negative digits =>
    (Numeral.ofDigits negative (Text.ofChars digits)).map fun i => .after (.int i) stack
  | .openList => enter stack (.firstItem stack)
  | .openObject => enter stack (.firstKey stack)
  | _ => .error .malformedJson

def step : State → Token → Except Fault State
  | .value stack, token => start stack token
  | .firstItem stack, .closeList => .ok (.after (.list []) stack)
  | .firstItem stack, token => start (.list [] :: stack) token
  | .firstKey stack, .closeObject => .ok (.after (.object []) stack)
  | .firstKey stack, .scalar (.text s) => .ok (.colon [] (.text s) stack)
  | .key done stack, .scalar (.text s) => .ok (.colon done (.text s) stack)
  | .colon done key stack, .colon => .ok (.value (.object done key :: stack))
  | .after v (.list done :: stack), .comma => .ok (.value (.list (v :: done) :: stack))
  | .after v (.list done :: stack), .closeList =>
    .ok (.after (.list (v :: done).reverse) stack)
  | .after v (.object done key :: stack), .comma => .ok (.key ((key, v) :: done) stack)
  | .after v (.object done key :: stack), .closeObject =>
    .ok (.after (.ofEntries ((key, v) :: done).reverse) stack)
  | _, _ => .error .malformedJson

def run (state : State) (cs : List Char) : Except Fault State :=
  match cs with
  | [] => .ok state
  | c :: rest =>
    if isSpace c then run state rest
    else match h : first? (c :: rest) with
      | none => .error .malformedJson
      | some (token, after) =>
        have := length_of_first? h
        match step state token with
        | .error fault => .error fault
        | .ok next => run next after
termination_by cs.length
decreasing_by
  · exact Nat.lt_succ_self _
  · assumption

def read (cs : List Char) : Except Fault Value :=
  match run (.value []) cs with
  | .error fault => .error fault
  | .ok (.after v []) => .ok v
  | .ok _ => .error .malformedJson

end DroidRoots.Json
