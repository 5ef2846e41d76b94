import DroidRoots.Json.Token
import DroidRoots.Number.Numeral
import DroidRoots.Yaml.Cursor

/-! The names that mark a node of a YAML text: anchors, tags, and the directives that
abbreviate tags. Each is read with the fault that is behind the text, if the text stops. -/

namespace DroidRoots.Yaml

structure Tag where
  handle : Option String
  suffix : String
  deriving DecidableEq, Repr

inductive Directive
  | version (major : Nat)
  | abbreviation (handle stem : String)
  | other
  deriving DecidableEq, Repr

def isWordChar (c : Char) : Bool := c.isAlphanum || c = '-' || c = '_'

def isUriMark (c : Char) : Bool := ";/?:@&=+$,.!~*\x27()[]".toList.contains c

def isUriChar (c : Char) : Bool := isWordChar c || isUriMark c

def anchorName (behind : Fault) (cur : Cursor) : Except Fault (String × Cursor) :=
  let (name, after) := cur.run isWordChar
  let ends := isGap after.head? || after.head?.any ("?:,]\x7d%@\x60".toList.contains ·)
  if !name.isEmpty && ends then .ok (String.ofList name, after) else .error (after.fault behind)

def handle (behind : Fault) (cur : Cursor) : Except Fault (String × Cursor) :=
  if cur.head? ≠ some '!' then .error (cur.fault behind)
  else
    let (name, after) := (cur.advance 1).run isWordChar
    if after.head? = some '!' then
      .ok (String.ofList ('!' :: name ++ ['!']), after.advance 1)
    else if name.isEmpty ∧ after.head? = some ' ' then .ok ("!", after)
    else .error (after.fault behind)

def escapedBytes (behind : Fault) : List Char → Except Fault (List UInt8 × List Char)
  | ['%'] => .error behind
  | ['%', a] => .error (if (Json.hexValue? a).isSome then behind else .malformedYaml)
  | '%' :: a :: b :: rest =>
    match Json.hexNumber? [a, b] with
    | none => .error .malformedYaml
    | some byte =>
      (escapedBytes behind rest).map fun (bytes, after) => (byte.toUInt8 :: bytes, after)
  | rest => .ok ([], rest)

theorem length_of_escapedBytes {behind : Fault} {cs rest : List Char} {bytes : List UInt8}
    (h : escapedBytes behind cs = .ok (bytes, rest)) :
    rest.length ≤ cs.length ∧ (cs.head? = some '%' → rest.length < cs.length) := by
  fun_induction escapedBytes behind cs generalizing bytes rest with
  | case1 => cases h
  | case2 => cases h
  | case3 => cases h
  | case4 a b tail byte _ ih =>
    cases read : escapedBytes behind tail with
    | error => rw [read] at h; cases h
    | ok made =>
      rw [read] at h
      cases h
      have := (ih read).1
      simp only [List.length_cons]
      omega
  | case5 cs first second third =>
    cases h
    refine ⟨Nat.le_refl _, fun marked => ?_⟩
    obtain _ | ⟨c, tail⟩ := cs
    · cases marked
    · obtain rfl : c = '%' := Option.some.inj marked
      match tail with
      | [] => exact (first rfl).elim
      | [a] => exact (second a rfl).elim
      | a :: b :: tail => exact (third a b tail rfl).elim

def escapedText (behind : Fault) (cur : Cursor) : Except Fault (String × Cursor) := do
  let (bytes, rest) ← escapedBytes behind cur.rest
  let after := cur.advance (cur.rest.length - rest.length)
  match String.fromUTF8? ⟨bytes.toArray⟩ with
  | some text => return (text, after)
  | none => throw (after.fault behind)

theorem length_of_escapedText {behind : Fault} {cur next : Cursor} {text : String}
    (h : escapedText behind cur = .ok (text, next)) (marked : cur.head? = some '%') :
    next.rest.length < cur.rest.length := by
  unfold escapedText at h
  cases read : escapedBytes behind cur.rest with
  | error => rw [read] at h; cases h
  | ok made =>
    obtain ⟨bytes, rest⟩ := made
    have := (length_of_escapedBytes read).2 marked
    rw [read] at h
    simp only [bind, Except.bind] at h
    split at h
    · cases h
      simp only [Cursor.rest_advance, List.length_drop]
      omega
    · cases h

def uriAfter (behind : Fault) (done : String) (cur : Cursor) : Except Fault (String × Cursor) :=
  let after := (cur.run isUriChar).2
  let done := done ++ String.ofList (cur.run isUriChar).1
  if marked : after.head? = some '%' then
    match read : escapedText behind after with
    | .error fault => .error fault
    | .ok (text, next) =>
      have : next.rest.length < cur.rest.length := by
        have := length_of_escapedText read marked
        simp only [after, Cursor.run, Cursor.rest_advance, List.length_drop] at this
        omega
      uriAfter behind (done ++ text) next
  else if done = "" then .error (after.fault behind)
  else .ok (done, after)
termination_by cur.rest.length

def uri (behind : Fault) (cur : Cursor) : Except Fault (String × Cursor) :=
  uriAfter behind "" cur

def complete (fault : Fault) (tag : Tag) (after : Cursor) : Except Fault (Tag × Cursor) :=
  if isSpaceOrEnd after.head? then .ok (tag, after) else .error fault

/-- A tag from its exclamation mark on: in angle brackets, alone, or abbreviated. Another
exclamation mark, which ends a handle, is looked for before anything else is read. -/
def tag (behind : Fault) (cur : Cursor) : Except Fault (Tag × Cursor) := do
  let inner := cur.advance 1
  if inner.head? = some '<' then
    let (suffix, after) ← uri behind (inner.advance 1)
    if after.head? ≠ some '>' then throw (after.fault behind)
    complete .malformedYaml ⟨none, suffix⟩ (after.advance 1)
  else if isGap inner.head? then complete .malformedYaml ⟨none, "!"⟩ inner
  else
    let run := inner.skip fun c => c ≠ '!' && !isSpaceOrEnd (some c)
    if run.head? = some '!' then
      let (handle, after) ← handle behind cur
      let (suffix, after) ← uri behind after
      complete .malformedYaml ⟨some handle, suffix⟩ after
    else
      match uri behind inner with
      | .ok (suffix, after) => complete (run.fault behind) ⟨some "!", suffix⟩ after
      | .error _ => throw (run.fault behind)

def versionNumber (behind : Fault) (cur : Cursor) : Except Fault (Nat × Cursor) :=
  let (digits, after) := cur.run Char.isDigit
  if digits.isEmpty then .error (after.fault behind)
  else (Numeral.ofDigits false (Text.ofChars digits)).map fun n => (n.toNat, after)

def version (behind : Fault) (cur : Cursor) : Except Fault (Directive × Cursor) := do
  let (major, after) ← versionNumber behind (cur.skip (· = ' '))
  if after.head? ≠ some '.' then throw (after.fault behind)
  let (_, after) ← versionNumber behind (after.advance 1)
  if isSpaceOrEnd after.head? then return (.version major, after) else throw .malformedYaml

def abbreviation (behind : Fault) (cur : Cursor) : Except Fault (Directive × Cursor) := do
  let (handle, after) ← handle behind (cur.skip (· = ' '))
  if after.head? ≠ some ' ' then throw (after.fault behind)
  let (stem, after) ← uri behind (after.skip (· = ' '))
  if isSpaceOrEnd after.head? then return (.abbreviation handle stem, after)
  else throw .malformedYaml

def directive (behind : Fault) (cur : Cursor) : Except Fault (Directive × Cursor) := do
  let (name, after) := (cur.advance 1).run isWordChar
  if name.isEmpty || !isSpaceOrEnd after.head? then throw (after.fault behind)
  let (directive, after) ← match String.ofList name with
    | "YAML" => version behind after
    | "TAG" => abbreviation behind after
    | _ => pure (.other, after.skip (!isBreak ·))
  match after.restOfLine? with
  | some after => return (directive, after)
  | none => throw .malformedYaml

end DroidRoots.Yaml
