import DroidRoots.Fault

/-! Positions in a YAML text and the classes of characters that separate its parts. -/

namespace DroidRoots.Yaml

def isBreak (c : Char) : Bool :=
  c = '\n' || c = '\x0d' || c = '\x85' || c = '\u2028' || c = '\u2029'

def lineBreak (c : Char) : Char := if c = '\u2028' ∨ c = '\u2029' then c else '\n'

def isBlank (c : Char) : Bool := c = ' ' || c = '\t'

def isGap : Option Char → Bool
  | none => true
  | some c => isBlank c || isBreak c

def isSpaceOrEnd : Option Char → Bool
  | none => true
  | some c => c = ' ' || isBreak c

def isLineEnd : Option Char → Bool
  | none => true
  | some c => isBreak c

/-- Lines and columns count from zero; a byte order mark takes no column. -/
structure Mark where
  index : Nat := 0
  line : Nat := 0
  column : Nat := 0

def Mark.after (m : Mark) (c : Char) : Mark :=
  if isBreak c then { index := m.index + 1, line := m.line + 1, column := 0 }
  else
    { index := m.index + 1, line := m.line
      column := if c = '\ufeff' then m.column else m.column + 1 }

structure Cursor where
  mark : Mark
  rest : List Char

namespace Cursor

def advance : Nat → Cursor → Cursor
  | 0, cur => cur
  | n + 1, cur =>
    match cur.rest with
    | [] => cur
    | c :: rest => advance n ⟨cur.mark.after c, rest⟩

@[simp] theorem rest_advance (n : Nat) (cur : Cursor) :
    (advance n cur).rest = cur.rest.drop n := by
  induction n generalizing cur with
  | zero => rfl
  | succ n ih =>
    obtain ⟨mark, rest⟩ := cur
    cases rest with
    | nil => rfl
    | cons c rest => simp [advance, ih]

def head? (cur : Cursor) : Option Char := cur.rest.head?

def column (cur : Cursor) : Nat := cur.mark.column

/-- What is at fault where a text cannot be read on: what stands there or, where the text
stops, what is behind it. -/
def fault (behind : Fault) (cur : Cursor) : Fault :=
  if cur.rest.isEmpty then behind else .malformedYaml

def run (p : Char → Bool) (cur : Cursor) : List Char × Cursor :=
  let run := cur.rest.takeWhile p
  (run, cur.advance run.length)

def skip (p : Char → Bool) (cur : Cursor) : Cursor := (cur.run p).2

def separates (marks rest : List Char) : Bool := marks.isPrefixOf rest && isGap rest[3]?

def atSeparator (cur : Cursor) : Bool :=
  separates ['-', '-', '-'] cur.rest || separates ['.', '.', '.'] cur.rest

def restOfLine? (cur : Cursor) : Option Cursor :=
  let cur := cur.skip (· = ' ')
  let cur := if cur.head? = some '#' then cur.skip (!isBreak ·) else cur
  if isLineEnd cur.head? then some (cur.advance 1) else none

def skipGap (comment broke : Bool) (m : Mark) : List Char → Bool × Cursor
  | [] => (broke, ⟨m, []⟩)
  | c :: rest =>
    if isBreak c then skipGap false true (m.after c) rest
    else if comment || c = ' ' then skipGap comment broke (m.after c) rest
    else if c = '#' then skipGap true broke (m.after c) rest
    else (broke, ⟨m, c :: rest⟩)

end Cursor

def breaksOf (run : List Char) : List Char := (run.filter isBreak).map lineBreak

/-- A run of blanks with line ends in it counts as one space, or as the line ends
after the first; a first one that is no plain line end is kept. -/
def fold (run : List Char) : List Char :=
  match breaksOf run with
  | [] => run
  | '\n' :: [] => [' ']
  | '\n' :: more => more
  | other => other

end DroidRoots.Yaml
