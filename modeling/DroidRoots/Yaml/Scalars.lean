import DroidRoots.Fault
import DroidRoots.Json.Token
import DroidRoots.Yaml.Cursor

/-! The three ways to write a scalar: plain, quoted, and as a block of lines. Each is read
from where it starts, with the text it stands for. -/

namespace DroidRoots.Yaml

/-! Plain scalars -/

def isFlowMark (c : Char) : Bool :=
  c = ',' || c = '[' || c = ']' || c = '\x7b' || c = '\x7d'

/-- How many characters a word of a plain scalar takes. A colon ends it before a gap, and
inside brackets also before one of their marks. -/
def wordLength (flow : Bool) : List Char → Nat
  | [] => 0
  | c :: rest =>
    let colon := c = ':' && (isGap rest.head? || (flow && rest.head?.any isFlowMark))
    if isGap (some c) || colon || (flow && (c = '?' || isFlowMark c)) then 0
    else wordLength flow rest + 1

theorem wordLength_le (flow : Bool) (cs : List Char) : wordLength flow cs ≤ cs.length := by
  induction cs with
  | nil => simp [wordLength]
  | cons c rest ih =>
    simp only [wordLength]
    split
    · exact Nat.zero_le _
    · simp only [List.length_cons]
      omega

def isSpaceOrBreak (c : Char) : Bool := c = ' ' || isBreak c

structure Plain where
  text : List Char
  cursor : Cursor
  lineEnded : Bool

/-- The words after those already read, with folded gaps between them. What is read is kept
last first. A plain scalar ends at a comment, at a line that is not indented enough, or
between documents. -/
def plainAfter (flow : Bool) (indent : Nat) (done gap : List Char) (ended : Bool)
    (cur : Cursor) : Plain :=
  let n := wordLength flow cur.rest
  if h : cur.head? = some '#' ∨ n = 0 then ⟨done.reverse, cur, ended⟩
  else
    let done := (gap ++ cur.rest.take n).reverse ++ done
    let run := ((cur.advance n).run isSpaceOrBreak).1
    let next := ((cur.advance n).run isSpaceOrBreak).2
    let broken := run.any isBreak
    let separated := run.getLast?.any isBreak && next.atSeparator
    if run.isEmpty || separated || next.head? = some '#' ||
        (!flow && next.column < indent) then ⟨done.reverse, next, broken⟩
    else
      have : next.rest.length < cur.rest.length := by
        have := wordLength_le flow cur.rest
        simp only [next, Cursor.run, Cursor.rest_advance, List.length_drop]
        omega
      plainAfter flow indent done (fold run) broken next
termination_by cur.rest.length

def plain (flow : Bool) (indent : Nat) (cur : Cursor) : Plain :=
  plainAfter flow indent [] [] false cur

/-! Quoted scalars -/

def simpleEscape? : Char → Option Char
  | '0' => some '\x00'
  | 'a' => some '\x07'
  | 'b' => some '\x08'
  | 't' | '\t' => some '\t'
  | 'n' => some '\n'
  | 'v' => some '\x0b'
  | 'f' => some '\x0c'
  | 'r' => some '\x0d'
  | 'e' => some '\x1b'
  | ' ' => some ' '
  | '"' => some '"'
  | '\\' => some '\\'
  | '/' => some '/'
  | 'N' => some '\x85'
  | '_' => some '\xa0'
  | 'L' => some '\u2028'
  | 'P' => some '\u2029'
  | _ => none

def escapeWidth? : Char → Option Nat
  | 'x' => some 2
  | 'u' => some 4
  | 'U' => some 8
  | _ => none

/-- The code point of a number. A number that is not even one of the machine's is at fault
in another way than one that is only beyond the last code point. -/
def ofCode (n : Nat) : Except Fault CodePoint :=
  if 0x7FFFFFFF < n then .error .outOfRange
  else if 0x10FFFF < n then .error (.nonexistent "chr() arg not in range(0x110000)")
  else .ok (.ofNat n)

/-- What is being read inside quotes: the text so far, last first, the gap that is still
open, and whether that gap began with an escaped line end. -/
structure Quote where
  done : Text := []
  gap : List Char := []
  joined : Bool := false

namespace Quote

def closed (q : Quote) : Text :=
  (Text.ofChars (if q.joined then breaksOf q.gap else fold q.gap)).reverse ++ q.done

def text (q : Quote) : Text := q.closed.reverse

def push (q : Quote) (c : CodePoint) : Quote := { done := c :: q.closed }

def separated (q : Quote) (cur : Cursor) : Bool :=
  (if q.gap.isEmpty then q.joined else q.gap.getLast?.any isBreak) && cur.atSeparator

end Quote

/-- A text between single quotes; what is at fault behind the text is so if no quote ends it. -/
def singleQuoted (behind : Fault) (q : Quote) (m : Mark) :
    List Char → Except Fault (Text × Cursor)
  | [] => .error behind
  | '\x27' :: '\x27' :: rest =>
    singleQuoted behind (q.push '\x27') ((m.after ' ').after ' ') rest
  | c :: rest =>
    let cur : Cursor := ⟨m, c :: rest⟩
    if q.separated cur then .error ((cur.advance 3).fault behind)
    else if c = '\x27' then .ok (q.text, ⟨m.after c, rest⟩)
    else if isGap (some c) then
      singleQuoted behind { q with gap := q.gap ++ [c] } (m.after c) rest
    else singleQuoted behind (q.push c) (m.after c) rest

/-- A text between double quotes. The hexadecimal digits of an escape are counted down, with
their number so far. -/
def doubleQuoted (behind : Fault) (q : Quote) (digits : Option (Nat × Nat)) (escape : Bool)
    (m : Mark) : List Char → Except Fault (Text × Cursor)
  | [] => .error behind
  | c :: rest =>
    match digits with
    | some (left, number) =>
      match Json.hexValue? c with
      | none => .error .malformedYaml
      | some d =>
        if left ≤ 1 then do
          let made ← ofCode (16 * number + d)
          doubleQuoted behind (q.push made) none false (m.after c) rest
        else doubleQuoted behind q (some (left - 1, 16 * number + d)) false (m.after c) rest
    | none =>
      if escape then
        match simpleEscape? c, escapeWidth? c with
        | some made, _ => doubleQuoted behind (q.push made) none false (m.after c) rest
        | none, some width => doubleQuoted behind q (some (width, 0)) false (m.after c) rest
        | none, none =>
          if isBreak c then
            doubleQuoted behind { done := q.closed, joined := true } none false (m.after c) rest
          else .error .malformedYaml
      else if q.separated ⟨m, c :: rest⟩ then
        .error (Cursor.fault behind (Cursor.advance 3 ⟨m, c :: rest⟩))
      else if c = '"' then .ok (q.text, ⟨m.after c, rest⟩)
      else if c = '\\' then doubleQuoted behind q none true (m.after c) rest
      else if isGap (some c) then
        doubleQuoted behind { q with gap := q.gap ++ [c] } none false (m.after c) rest
      else doubleQuoted behind (q.push c) none false (m.after c) rest

/-! Blocks of lines -/

inductive Chomping
  | strip
  | clip
  | keep
  deriving DecidableEq

structure BlockHeader where
  chomping : Chomping := .clip
  increment : Option Nat := none

def chomping? : Option Char → Option Chomping
  | some '+' => some .keep
  | some '-' => some .strip
  | _ => none

def increment? : Option Char → Option (Option Nat)
  | some c =>
    if !c.isDigit then none else some (if c = '0' then none else some (c.toNat - 48))
  | none => none

def blockHeader? (cur : Cursor) : Option (BlockHeader × Cursor) := do
  let (header, cur) ← match chomping? cur.head? with
    | some chomping =>
      match increment? (cur.advance 1).head? with
      | some increment => do some (⟨chomping, some (← increment)⟩, cur.advance 2)
      | none => some (⟨chomping, none⟩, cur.advance 1)
    | none =>
      match increment? cur.head? with
      | some increment => do
        let size ← increment
        match chomping? (cur.advance 1).head? with
        | some chomping => some (⟨chomping, some size⟩, cur.advance 2)
        | none => some (⟨.clip, some size⟩, cur.advance 1)
      | none => some ({}, cur)
  if isSpaceOrEnd cur.head? then (cur.restOfLine?).map (header, ·) else none

def blockBreaks (indent : Nat) (done : List Char) (m : Mark) : List Char → List Char × Cursor
  | [] => (done, ⟨m, []⟩)
  | c :: rest =>
    if c = ' ' ∧ m.column < indent then blockBreaks indent done (m.after c) rest
    else if isBreak c then blockBreaks indent (done ++ [lineBreak c]) (m.after c) rest
    else (done, ⟨m, c :: rest⟩)

theorem length_blockBreaks_le (indent : Nat) (done : List Char) (m : Mark) (cs : List Char) :
    (blockBreaks indent done m cs).2.rest.length ≤ cs.length := by
  induction cs generalizing done m with
  | nil => simp [blockBreaks]
  | cons c rest ih =>
    simp only [blockBreaks, List.length_cons]
    split
    · exact Nat.le_succ_of_le (ih _ _)
    · split
      · exact Nat.le_succ_of_le (ih _ _)
      · simp

def deepest (column best : Nat) : List Char → Nat
  | [] => best
  | c :: rest =>
    if isBreak c then deepest 0 best rest else deepest (column + 1) (max best (column + 1)) rest

structure BlockText where
  text : List Char
  lastBreak : List Char
  breaks : List Char
  cursor : Cursor

/-- The lines of a block, kept last first while they are read. When folding, one line end
between two lines that start with no blank counts as a space, and is dropped before empty
lines. -/
def blockLines (folded : Bool) (indent : Nat) (done breaks : List Char) (cur : Cursor) :
    BlockText :=
  if h : cur.column ≠ indent ∨ cur.rest.isEmpty then ⟨done.reverse, [], breaks, cur⟩
  else
    let line := (cur.run (!isBreak ·)).1
    let ending := (cur.run (!isBreak ·)).2
    let done := (breaks ++ line).reverse ++ done
    let ended := (ending.head?.map lineBreak).toList
    let start := ending.advance 1
    let more := (blockBreaks indent [] start.mark start.rest).1
    let next := (blockBreaks indent [] start.mark start.rest).2
    if next.column = indent ∧ !next.rest.isEmpty then
      let flat := folded && ended = ['\n'] && !(cur.head?.any isBlank) && !(next.head?.any isBlank)
      let joint := if !flat then ended else if more.isEmpty then [' '] else []
      have : next.rest.length < cur.rest.length := by
        have shorter : start.rest.length < cur.rest.length := by
          have : cur.rest ≠ [] := fun empty => h (Or.inr (by simp [empty]))
          have := List.length_pos_iff.2 this
          simp only [start, ending, Cursor.run, Cursor.rest_advance, List.length_drop]
          omega
        exact Nat.lt_of_le_of_lt (length_blockBreaks_le _ _ _ _) shorter
      blockLines folded indent (joint.reverse ++ done) more next
    else ⟨done.reverse, ended, more, next⟩
termination_by cur.rest.length
decreasing_by assumption

def block (folded : Bool) (indent : Int) (cur : Cursor) : Except Fault (List Char × Cursor) :=
  match blockHeader? cur with
  | none => .error .malformedYaml
  | some (header, cur) =>
    let least := (max 1 (indent + 1)).toNat
    let (run, after) := cur.run isSpaceOrBreak
    let (indent, breaks, start) := match header.increment with
      | none => (max least (deepest cur.column 0 run), breaksOf run, after)
      | some size =>
        let (breaks, start) := blockBreaks (least + size - 1) [] cur.mark cur.rest
        (least + size - 1, breaks, start)
    let result := blockLines folded indent [] breaks start
    let tail := match header.chomping with
      | .strip => []
      | .clip => result.lastBreak
      | .keep => result.lastBreak ++ result.breaks
    .ok (result.text ++ tail, result.cursor)

end DroidRoots.Yaml
