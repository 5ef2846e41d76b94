import DroidRoots.Fault

/-! The text that a YAML document is read from. It is taken in portions, and a portion with
a character that may not stand in it is at fault as a whole; what stands before it is read
first. -/

namespace DroidRoots.Yaml

structure Source where
  text : List Char
  breakage : Option Fault := none

def isAllowed (c : Char) : Bool :=
  let n := c.toNat
  n = 9 || n = 10 || n = 13 || (0x20 ≤ n && n ≤ 0x7E) || n = 0x85 ||
    (0xA0 ≤ n && n ≤ 0xFFFD) || 0x10000 ≤ n

namespace Source

def portion : Nat := 4096

/-- Where the portion of a place starts. The first two portions are taken together. -/
def portionStart (place : Nat) : Nat :=
  if place < 2 * portion then 0 else place / portion * portion

def ofChars (cs : List Char) (breakage : Option Fault) : Source :=
  match cs.findIdx? (!isAllowed ·) with
  | none => { text := cs, breakage }
  | some place => { text := cs.take (portionStart place), breakage := some .malformedYaml }

end Source

end DroidRoots.Yaml
