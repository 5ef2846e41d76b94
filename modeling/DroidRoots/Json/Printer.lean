import DroidRoots.Number.Layout
import DroidRoots.Value.Basic
import DroidRoots.Value.Octets

/-! Values as JSON texts of ASCII characters, on one line or indented with sorted
keys. -/

namespace DroidRoots.Json

def escapeUnit (n : Nat) : Text := .char '\\' :: .char 'u' :: Text.hexPadded 4 n

/-- A code point outside ASCII is escaped by its one or two code units of sixteen bits. -/
def escape (c : CodePoint) : Text :=
  let n := c.toNat
  if c = '"' then ['\\', '"']
  else if c = '\\' then ['\\', '\\']
  else if c = '\n' then ['\\', 'n']
  else if c = '\x0d' then ['\\', 'r']
  else if c = '\t' then ['\\', 't']
  else if c = '\x0c' then ['\\', 'f']
  else if c = '\x08' then ['\\', 'b']
  else if 0x20 ≤ n ∧ n < 0x7F then [c]
  else if n < 0x10000 then escapeUnit n
  else
    escapeUnit (0xD800 + (n - 0x10000) / 0x400) ++ escapeUnit (0xDC00 + (n - 0x10000) % 0x400)

def quoted (text : Text) : Text := .char '"' :: text.flatMap escape ++ [.char '"']

def bare : Scalar → Text
  | .null => "null"
  | .bool b => if b then "true" else "false"
  | .int i => Text.ofInt i
  | .float x => Layout.json.text x
  | .text s => s
  | .moment m => m.text
  | .bytes b => Octets.quoted b

def scalar : Scalar → Text
  | .text s => quoted s
  | .moment m => quoted m.text
  | .bytes b => quoted (Octets.quoted b)
  | other => bare other

def knotted : Text := quoted "..."

mutual

def compact : Value → Text
  | .scalar s => scalar s
  | .list items => "[" ++ Text.join "," (compactItems items) ++ "]"
  | .object entries => "\x7b" ++ Text.join "," (compactEntries entries) ++ "\x7d"
  | .set members => "[" ++ Text.join "," (members.map scalar) ++ "]"
  | .pair first second => "[" ++ compact first ++ "," ++ compact second ++ "]"
  | .knot _ => knotted

def compactItems : List Value → List Text
  | [] => []
  | v :: rest => compact v :: compactItems rest

def compactEntries : List (Scalar × Value) → List Text
  | [] => []
  | (k, v) :: rest => (quoted (bare k) ++ ":" ++ compact v) :: compactEntries rest

end

def newLine (depth : Nat) : Text := .char '\n' :: List.replicate (2 * depth) (.char ' ')

def enclose (depth : Nat) (opening closing : Text) (parts : List Text) : Text :=
  if parts.isEmpty then opening ++ closing
  else
    opening ++ newLine (depth + 1) ++ Text.join ("," ++ newLine (depth + 1)) parts ++
      newLine depth ++ closing

mutual

/-- Two spaces for each level, and the entries of an object ascending by key. -/
def indented (depth : Nat) : Value → Text
  | .scalar s => scalar s
  | .list items => enclose depth "[" "]" (indentedItems (depth + 1) items)
  | .object entries =>
    enclose depth "\x7b" "\x7d"
      (((indentedEntries (depth + 1) entries).mergeSort fun a b => !decide (b.1 < a.1)).map (·.2))
  | .set members => enclose depth "[" "]" (members.map scalar)
  | .pair first second =>
    enclose depth "[" "]" [indented (depth + 1) first, indented (depth + 1) second]
  | .knot _ => knotted

def indentedItems (depth : Nat) : List Value → List Text
  | [] => []
  | v :: rest => indented depth v :: indentedItems depth rest

def indentedEntries (depth : Nat) : List (Scalar × Value) → List (Text × Text)
  | [] => []
  | (k, v) :: rest =>
    (bare k, quoted (bare k) ++ ": " ++ indented depth v) :: indentedEntries depth rest

end

def pretty (v : Value) : Text := indented 0 v

end DroidRoots.Json
