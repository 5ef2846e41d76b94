import DroidRoots.Text.Quoted

/-! Runs of bytes, as documents give them in base 64 and as they are written. -/

namespace DroidRoots.Octets

def sextet? (c : Char) : Option Nat :=
  let n := c.toNat
  if 'A' ≤ c ∧ c ≤ 'Z' then some (n - 65)
  else if 'a' ≤ c ∧ c ≤ 'z' then some (n - 71)
  else if '0' ≤ c ∧ c ≤ '9' then some (n + 4)
  else if c = '+' then some 62
  else if c = '/' then some 63
  else none

/-- Four digits make three bytes: how many are read of the four, what the last of them left
over, and how many pads came since. -/
structure Group where
  read : Nat := 0
  left : Nat := 0
  pads : Nat := 0

def Group.byte? (g : Group) (digit : Nat) : Option UInt8 :=
  match g.read with
  | 0 => none
  | 1 => some (g.left * 4 + digit / 16).toUInt8
  | 2 => some (g.left * 16 + digit / 4).toUInt8
  | _ => some (g.left * 64 + digit).toUInt8

def Group.push (g : Group) (digit : Nat) : Group :=
  match g.read with
  | 0 => { read := 1, left := digit }
  | 1 => { read := 2, left := digit % 16 }
  | 2 => { read := 3, left := digit % 4 }
  | _ => {}

/-- The bytes after those already read, which come last first. Pads that fill a group end the
text; characters that are no digits are passed over. -/
def decode? (done : List UInt8) (g : Group) : List Char → Option (List UInt8)
  | [] => if g.read = 0 then some done.reverse else none
  | c :: rest =>
    if c = '=' then
      if 2 ≤ g.read ∧ 4 ≤ g.read + g.pads + 1 then some done.reverse
      else decode? done { g with pads := if 2 ≤ g.read then g.pads + 1 else g.pads } rest
    else match sextet? c with
      | none => decode? done g rest
      | some digit => decode? ((g.byte? digit).toList ++ done) (g.push digit) rest

def ofBase64? (cs : List Char) : Option (List UInt8) := decode? [] {} cs

def escaped (quote : CodePoint) (byte : UInt8) : Text :=
  let c : CodePoint := .ofNat byte.toNat
  if c = quote ∨ c = '\\' then ['\\', c]
  else if 0x20 ≤ byte ∧ byte < 0x7F then [c]
  else if c = '\t' ∨ c = '\n' ∨ c = '\x0d' then Text.escapeUnprintable c
  else '\\' :: 'x' :: Text.hexPadded 2 byte.toNat

def quoted (bytes : List UInt8) : Text :=
  let quote := Text.quoteFor (bytes.map fun byte => .ofNat byte.toNat)
  .char 'b' :: quote :: bytes.flatMap (escaped quote) ++ [quote]

end DroidRoots.Octets
