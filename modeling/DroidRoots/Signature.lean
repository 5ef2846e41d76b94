import DroidRoots.Descriptor
import DroidRoots.Fault
import DroidRoots.Subsignature

/-! Signatures of methods in two spellings: the angled one, with Java names between angle
brackets, and the one of dex files, made of descriptors. The angled one is canonical. -/

namespace DroidRoots.Signature

def dexParts? (cs : Text) : Option (Text × Text × Text) :=
  match cs, cs.dropWhile (· ≠ .char ';') with
  | .char 'L' :: _, .char ';' :: .char '-' :: .char '>' :: member =>
    let declaring := cs.takeWhile (· ≠ .char ';')
    let name := member.takeWhile (· ≠ .char '(')
    let proto := member.dropWhile (· ≠ .char '(')
    if declaring.length < 2 ∨ name = [] ∨ .char ')' ∉ proto ∨ .char '\n' ∈ proto then none
    else some (declaring ++ [.char ';'], name, proto)
  | _, _ => none

def angle (declaring subsignature : Text) : Text :=
  .char '<' :: declaring ++ .char ':' :: .char ' ' :: subsignature ++ [.char '>']

def typeNames (proto : Text) : Except Fault (List Text × Text) :=
  match Descriptor.method? proto with
  | none => .error (.invalidDescriptor proto)
  | some names => .ok names

def ofDex (declaring name proto : Text) : Except Fault (Text) :=
  (typeNames proto).map fun (params, returned) =>
    angle (Descriptor.javaName declaring) (Subsignature.render name params returned)

def isAngled (cs : Text) : Bool := cs.head? = some (.char '<') && cs.getLast? = some (.char '>')

/-- The angled spelling of a signature. A text that is none is only trimmed. -/
def angled (cs : Text) : Except Fault (Text) :=
  let text := Text.trim cs
  if isAngled text then .ok text
  else match dexParts? text with
    | some (declaring, name, proto) => ofDex declaring name proto
    | none => .ok text

end DroidRoots.Signature
