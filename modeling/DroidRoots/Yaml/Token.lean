import DroidRoots.Yaml.Scalars
import DroidRoots.Yaml.Source
import DroidRoots.Yaml.Tag

/-! The tokens of a YAML text. Indentation is made explicit: the start and the end of each
block are tokens. Where a colon shows that what came before it was a key, the key token is
put in front of it afterwards; such a key lies on one line and within 1024 characters. The
text is read only as far as the next token asks for, so a fault is found when what comes
before it has been taken. -/

namespace DroidRoots.Yaml

inductive Token
  | directive (d : Directive)
  | documentStart
  | documentEnd
  | sequenceStart
  | mappingStart
  | blockEnd
  | openList
  | closeList
  | openMap
  | closeMap
  | comma
  | dash
  | key
  | value
  | alias (name : String)
  | anchor (name : String)
  | tag (tag : Tag)
  | scalar (plain : Bool) (text : Text)
  deriving DecidableEq, Repr

/-- A token that may turn out to be a key. Tokens are counted from the first of the text. -/
structure KeyPlace where
  depth : Nat
  token : Nat
  required : Bool
  mark : Mark

structure Scanner where
  cursor : Cursor
  breakage : Option Fault := none
  depth : Nat := 0
  indent : Int := -1
  indents : List Int := []
  keyAllowed : Bool := true
  places : List KeyPlace := []
  /-- The tokens that were read and not taken yet, and how many were taken. -/
  tokens : List Token := []
  taken : Nat := 0
  ended : Bool := false

namespace Scanner

def ofSource (source : Source) : Scanner :=
  let start : Cursor := ⟨{}, source.text⟩
  { cursor := if source.text.head? = some '\ufeff' then start.advance 1 else start
    breakage := source.breakage }

def push (s : Scanner) (token : Token) : Scanner := { s with tokens := s.tokens ++ [token] }

def flow (s : Scanner) : Bool := s.depth ≠ 0

def behind (s : Scanner) : Fault := s.breakage.getD .malformedYaml

/-- Fails if no more than so many characters are left before something that is at fault. -/
def unbroken (s : Scanner) (ahead : Nat) : Except Fault Scanner :=
  match s.breakage with
  | some fault => if (s.cursor.rest.drop ahead).isEmpty then .error fault else .ok s
  | none => .ok s

def unwindTo (column : Int) : Int → List Int → List Token → Int × List Int × List Token
  | indent, [], tokens => (indent, [], tokens)
  | indent, outer :: rest, tokens =>
    if column < indent then unwindTo column outer rest (tokens ++ [.blockEnd])
    else (indent, outer :: rest, tokens)

def unwind (s : Scanner) (column : Int) : Scanner :=
  if s.flow then s
  else
    let (indent, indents, tokens) := unwindTo column s.indent s.indents s.tokens
    { s with indent, indents, tokens }

def dropPlace (s : Scanner) : Except Fault Scanner :=
  if s.places.any fun p => p.depth = s.depth && p.required then .error .malformedYaml
  else .ok { s with places := s.places.filter fun p => p.depth ≠ s.depth }

def dropStale (s : Scanner) : Except Fault Scanner :=
  let stale (p : KeyPlace) : Bool :=
    p.mark.line ≠ s.cursor.mark.line || p.mark.index + 1024 < s.cursor.mark.index
  if s.places.any fun p => stale p && p.required then .error .malformedYaml
  else .ok { s with places := s.places.filter fun p => !stale p }

def savePlace (s : Scanner) : Except Fault Scanner :=
  if !s.keyAllowed then .ok s
  else do
    let required := !s.flow && s.indent = s.cursor.column
    let s ← s.dropPlace
    let place : KeyPlace :=
      { depth := s.depth, token := s.taken + s.tokens.length, required, mark := s.cursor.mark }
    return { s with places := place :: s.places }

def startBlock (s : Scanner) (column place : Nat) (token : Token) : Scanner :=
  if s.indent < column then
    { s with
      indent := column, indents := s.indent :: s.indents
      tokens := s.tokens.insertIdx place token }
  else s

def mark (s : Scanner) (token : Token) (width : Nat) (keyAllowed : Bool) : Scanner :=
  { s.push token with cursor := s.cursor.advance width, keyAllowed }

def openFlow (s : Scanner) (token : Token) : Except Fault Scanner := do
  let s ← s.savePlace
  return { s.mark token 1 true with depth := s.depth + 1 }

def closeFlow (s : Scanner) (token : Token) : Except Fault Scanner := do
  let s ← s.dropPlace
  if s.depth = 0 then throw .malformedYaml
  return { s.mark token 1 false with depth := s.depth - 1 }

/-- An entry or an explicit key in a block needs a place where a key may start. -/
def indicator (s : Scanner) (start token : Token) (keyAllowed : Bool) :
    Except Fault Scanner := do
  if !s.flow && !s.keyAllowed then throw .malformedYaml
  let s := if s.flow then s else s.startBlock s.cursor.column s.tokens.length start
  let s ← s.dropPlace
  return s.mark token 1 keyAllowed

def valueMark (s : Scanner) : Except Fault Scanner :=
  match s.places.find? fun p => p.depth = s.depth with
  | some place =>
    let index := place.token - s.taken
    let s :=
      { s with
        places := s.places.filter fun p => p.depth ≠ s.depth
        tokens := s.tokens.insertIdx index .key }
    let s := if s.flow then s else s.startBlock place.mark.column index .mappingStart
    .ok (s.mark .value 1 false)
  | none => s.indicator .mappingStart .value !s.flow

def node (s : Scanner) (read : Scanner → Except Fault (Token × Cursor)) :
    Except Fault Scanner := do
  let s ← s.savePlace
  let (token, cursor) ← read s
  return { s.push token with cursor, keyAllowed := false }

def plainScalar (s : Scanner) : Except Fault Scanner := do
  let s ← s.savePlace
  let result := plain s.flow (s.indent + 1).toNat s.cursor
  let s :=
    { s.push (.scalar true (Text.ofChars result.text)) with
      cursor := result.cursor, keyAllowed := result.lineEnded }
  let colon := if result.cursor.head? = some ':' then 1 else 0
  s.unbroken (max colon (if result.lineEnded then 2 - result.cursor.column else 0))

def blockScalar (s : Scanner) (folded : Bool) : Except Fault Scanner := do
  let s ← s.dropPlace
  let (text, cursor) ← block folded s.indent (s.cursor.advance 1)
  return { s.push (.scalar false (Text.ofChars text)) with cursor, keyAllowed := true }

def document (s : Scanner) (token : Token) (cursor : Cursor) : Except Fault Scanner := do
  let s ← (s.unwind (-1)).dropPlace
  return { s.push token with cursor, keyAllowed := false }

/-- A plain scalar starts with a character that has no other meaning, or with an indicator
that is not one because text follows it. -/
def startsPlain (flow : Bool) (c : Char) (next : Option Char) : Bool :=
  if c = '-' then !isGap next
  else if c = '?' ∨ c = ':' then !flow && !isGap next
  else !isGap (some c) && !(",[]\x7b\x7d#&*!|>\x27\x22%@\x60".toList.contains c)

def token (s : Scanner) (c : Char) : Except Fault Scanner :=
  let next := s.cursor.rest[1]?
  let start := s.cursor.column = 0
  let named (make : String → Token) (s : Scanner) : Except Fault (Token × Cursor) :=
    (anchorName s.behind (s.cursor.advance 1)).map fun (name, cursor) => (make name, cursor)
  let text (read : Cursor → Except Fault (Text × Cursor)) (s : Scanner) :
      Except Fault (Token × Cursor) :=
    (read (s.cursor.advance 1)).map fun (text, cursor) => (.scalar false text, cursor)
  if c = '%' && start then do
    let (d, cursor) ← directive s.behind s.cursor
    s.document (.directive d) cursor
  else if start && Cursor.separates ['-', '-', '-'] s.cursor.rest then
    s.document .documentStart (s.cursor.advance 3)
  else if start && Cursor.separates ['.', '.', '.'] s.cursor.rest then
    s.document .documentEnd (s.cursor.advance 3)
  else if c = '[' then s.openFlow .openList
  else if c = '\x7b' then s.openFlow .openMap
  else if c = ']' then s.closeFlow .closeList
  else if c = '\x7d' then s.closeFlow .closeMap
  else if c = ',' then s.dropPlace.map fun s => s.mark .comma 1 true
  else if c = '-' && isGap next then s.indicator .sequenceStart .dash true
  else if c = '?' && (s.flow || isGap next) then s.indicator .mappingStart .key !s.flow
  else if c = ':' && (s.flow || isGap next) then s.valueMark
  else if c = '*' then s.node (named .alias)
  else if c = '&' then s.node (named .anchor)
  else if c = '!' then
    s.node fun s => (tag s.behind s.cursor).map fun (tag, cursor) => (.tag tag, cursor)
  else if c = '|' && !s.flow then s.blockScalar false
  else if c = '>' && !s.flow then s.blockScalar true
  else if c = '\x27' then
    s.node (text fun cur => singleQuoted s.behind {} cur.mark cur.rest)
  else if c = '"' then
    s.node (text fun cur => doubleQuoted s.behind {} none false cur.mark cur.rest)
  else if startsPlain s.flow c next then s.plainScalar
  else .error .malformedYaml

def settle (s : Scanner) : Except Fault Scanner := do
  let (broke, cursor) := Cursor.skipGap false false s.cursor.mark s.cursor.rest
  let s ← { s with cursor, keyAllowed := s.keyAllowed || (broke && !s.flow) }.unbroken 0
  let s ← s.dropStale
  return s.unwind s.cursor.column

/-- How many characters behind the first are looked at before a token starts: what starts
with the one may depend on the next, and marks that separate documents are three. -/
def view (s : Scanner) (c : Char) : Nat :=
  if s.cursor.column = 0 && (c = '-' || c = '.') then 2 else 1

def advance (s : Scanner) : Except Fault Scanner := do
  let s ← s.settle
  match s.cursor.rest with
  | [] =>
    let s ← (s.unwind (-1)).dropPlace
    return { s with keyAllowed := false, places := [], ended := true }
  | c :: _ => do
    let s ← s.unbroken (s.view c)
    (← s.token c).unbroken 0

/-- A key shows within so many tokens, since each takes a character. -/
def lookAhead : Nat := 1100

/-- Reads on until the next token is known not to be a key, or the text ends. The first
number bounds how many tokens are read. -/
def fill : Nat → Scanner → Except Fault Scanner
  | 0, _ => .error .malformedYaml
  | tries + 1, s =>
    if s.ended then .ok s
    else if s.tokens.isEmpty then do fill tries (← s.advance)
    else do
      let s ← s.dropStale
      if s.places.any (·.token = s.taken) then fill tries (← s.advance) else return s

def take (s : Scanner) : Scanner := { s with tokens := s.tokens.tail, taken := s.taken + 1 }

end Scanner

end DroidRoots.Yaml
