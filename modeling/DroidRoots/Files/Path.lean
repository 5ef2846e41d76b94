import DroidRoots.Fault
import DroidRoots.Text.Blank

/-! Paths: the parts between slashes, without empty ones and single dots, below nothing or
below a root. Double dots are kept. -/

namespace DroidRoots

structure Path where
  /-- Nothing, one slash, or the two that a text may start with. -/
  root : Text
  parts : List Text
  deriving DecidableEq, Repr

namespace Path

def rootOf : Text → Text
  | .char '/' :: .char '/' :: .char '/' :: _ => "/"
  | .char '/' :: .char '/' :: _ => "//"
  | .char '/' :: _ => "/"
  | _ => []

def ofText (text : Text) : Path :=
  { root := rootOf text
    parts := (Text.pieces (.char '/') text).filter fun part => part ≠ [] ∧ part ≠ "." }

def text (p : Path) : Text :=
  if p.root = [] ∧ p.parts = [] then "." else p.root ++ Text.join "/" p.parts

def name (p : Path) : Text := p.parts.getLast?.getD []

/-- The stem and the suffix of a name: cut at the last dot, unless that is its first or its
last character. -/
def cut (name : Text) : Text × Text :=
  let tail := name.reverse.takeWhile (· ≠ .char '.')
  let stem := (name.reverse.dropWhile (· ≠ .char '.')).drop 1
  if tail = [] ∨ stem = [] then (name, [])
  else (stem.reverse, .char '.' :: tail.reverse)

def stem (p : Path) : Text := (cut p.name).1

def suffix (p : Path) : Text := (cut p.name).2

def lowerLetter : CodePoint → CodePoint
  | .char c => .char c.toLower
  | other => other

def isYaml (p : Path) : Bool :=
  let suffix := p.suffix.map lowerLetter
  suffix = ".yaml" || suffix = ".yml"

def parent (p : Path) : Path := { p with parts := p.parts.dropLast }

/-- How many bytes a code point takes in a name. A surrogate stands for one byte that is
no part of a character, and there are such bytes from 80 to FF (hexadecimal) only. -/
def width? : CodePoint → Option Nat
  | .char c => some c.utf8Size
  | .surrogate offset => if 0x480 ≤ offset.val ∧ offset.val < 0x500 then some 1 else none

def size? (text : Text) : Option Nat := (text.mapM width?).map (·.foldl (· + ·) 0)

def nameLimit : Nat := 255

def pathLimit : Nat := 4096

def isLongName (part : Text) : Bool := (size? part).any (nameLimit < ·)

def objection? (p : Path) : Option Fault :=
  match size? p.text with
  | none => some .unencodablePath
  | some size =>
    if .char '\x00' ∈ p.text then some .nulInPath
    else if pathLimit ≤ size then some .longName
    else none

end Path

end DroidRoots
