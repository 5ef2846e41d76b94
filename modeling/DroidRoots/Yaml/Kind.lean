import DroidRoots.Number.Numeral
import DroidRoots.Json.Token
import DroidRoots.Text.Blank
import DroidRoots.Value.Moment

/-! The kinds of the nodes of a YAML document. A tag names one; where no tag does, the text
of a plain scalar tells: nothing, a truth value, a number, a moment, or a text. Numbers may
have underscores among their digits and may be given in base sixty. -/

namespace DroidRoots.Yaml

inductive Kind
  | null
  | bool
  | int
  | float
  | bytes
  | moment
  | text
  | list
  | map
  | set
  | pairs
  /-- The key under which other mappings are merged. -/
  | merge
  /-- The key under which a mapping holds the value that it stands for. -/
  | value
  | foreign
  deriving DecidableEq, Repr

namespace Kind

def names : List (String × Kind) :=
  [("null", null), ("bool", bool), ("int", int), ("float", float), ("binary", bytes),
    ("timestamp", moment), ("str", text), ("seq", list), ("map", map), ("set", set),
    ("omap", pairs), ("pairs", pairs), ("merge", merge), ("value", value)]

def tagStem : String := "tag:yaml.org,2002:"

def ofTag (tag : String) : Kind :=
  ((names.find? fun entry => tagStem ++ entry.1 = tag).map (·.2)).getD foreign

def isNull (cs : List Char) : Bool :=
  String.ofList cs ∈ ["", "~", "null", "Null", "NULL"]

def isBool (cs : List Char) : Bool :=
  String.ofList cs ∈
    ["yes", "Yes", "YES", "no", "No", "NO", "true", "True", "TRUE", "false", "False", "FALSE",
      "on", "On", "ON", "off", "Off", "OFF"]

def startsWithDigit (cs : List Char) : Bool := cs.head?.any Char.isDigit

def isPart (c : Char) : Bool := c.isDigit || c = '_'

def isSixtieth (cs : List Char) : Bool :=
  match cs with
  | [a] => a.isDigit
  | [a, b] => '0' ≤ a && a ≤ '5' && b.isDigit
  | _ => false

def isNumeral (digit : Char → Bool) (cs : List Char) : Bool :=
  cs ≠ [] && cs.all fun c => c = '_' || digit c

def isMagnitude (cs : List Char) : Bool :=
  match cs with
  | ['0'] => true
  | '0' :: 'b' :: rest => isNumeral (fun c => c = '0' || c = '1') rest
  | '0' :: 'x' :: rest => isNumeral (fun c => (Json.hexValue? c).isSome) rest
  | '0' :: rest => isNumeral (fun c => '0' ≤ c && c ≤ '7') rest
  | _ =>
    match Text.pieces ':' cs with
    | whole :: places => startsWithDigit whole && whole.all isPart && places.all isSixtieth
    | [] => false

def isInt (cs : List Char) : Bool := isMagnitude (Json.signed cs).2

def isExponent (cs : List Char) : Bool :=
  match cs with
  | [] => true
  | e :: sign :: digits =>
    (e = 'e' || e = 'E') && (sign = '-' || sign = '+') && digits ≠ [] && digits.all Char.isDigit
  | _ => false

/-- A point with digits around it; at least one digit stands before it, or else after it
when there is no sign. -/
def isDecimal (sign : Bool) (cs : List Char) : Bool :=
  match cs.dropWhile isPart with
  | '.' :: rest =>
    (startsWithDigit cs ||
        (!sign && (cs.takeWhile isPart).isEmpty && startsWithDigit rest)) &&
      isExponent (rest.dropWhile isPart)
  | _ => false

def isSixties (cs : List Char) : Bool :=
  let pieces := Text.pieces ':' cs
  match pieces, pieces.getLast? with
  | whole :: middle :: more, some last =>
    startsWithDigit whole && whole.all isPart && (middle :: more).dropLast.all isSixtieth &&
      isSixtieth (last.takeWhile (· ≠ '.')) &&
      (match last.dropWhile (· ≠ '.') with
        | _ :: places => places.all isPart
        | [] => false)
  | _, _ => false

def isFloat (cs : List Char) : Bool :=
  let body := (Json.signed cs).2
  String.ofList cs ∈ [".nan", ".NaN", ".NAN"] ||
    String.ofList body ∈ [".inf", ".Inf", ".INF"] ||
    isDecimal (body.length < cs.length) body || isSixties body

def digits? (least most : Nat) (cs : List Char) : Option (Nat × List Char) :=
  let run := cs.takeWhile Char.isDigit
  if least ≤ run.length ∧ run.length ≤ most then
    some (Json.digitsValue run, cs.dropWhile Char.isDigit)
  else none

def expect? (c : Char) : List Char → Option (List Char)
  | [] => none
  | d :: rest => if d = c then some rest else none

def offset? (cs : List Char) : Option (Option Int) :=
  match cs.dropWhile fun c => c = ' ' || c = '\t' with
  | [] => if cs = [] then some none else none
  | ['Z'] => some (some 0)
  | sign :: rest => do
    if sign ≠ '-' ∧ sign ≠ '+' then none
    let (hours, rest) ← digits? 1 2 rest
    let minutes ← if rest.isEmpty then some 0 else do
      let (minutes, rest) ← digits? 2 2 (← expect? ':' rest)
      if rest.isEmpty then some minutes else none
    let size : Int := hours * 60 + minutes
    some (some (if sign = '-' then -size else size))

/-- Millionths of a second, further digits being dropped. -/
def microOf (digits : List Char) : Nat :=
  let kept := digits.take 6
  Json.digitsValue kept * tenTo (6 - kept.length)

def clock? (cs : List Char) : Option Clock := do
  let (hour, rest) ← digits? 1 2 cs
  let (minute, rest) ← digits? 2 2 (← expect? ':' rest)
  let (second, rest) ← digits? 2 2 (← expect? ':' rest)
  let (fraction, rest) := match rest with
    | '.' :: more => (more.takeWhile Char.isDigit, more.dropWhile Char.isDigit)
    | _ => ([], rest)
  let offset ← offset? rest
  some { hour, minute, second, micro := microOf fraction, offset }

def momentParts? (cs : List Char) : Option Moment := do
  let (year, rest) ← digits? 4 4 cs
  let monthText ← expect? '-' rest
  let (month, rest) ← digits? 1 2 monthText
  let dayText ← expect? '-' rest
  let (day, rest) ← digits? 1 2 dayText
  match rest with
  | [] => some { year, month, day, clock := none }
  | c :: more =>
    let time ← if c = 'T' ∨ c = 't' then some more
      else if c = ' ' ∨ c = '\t' then some (more.dropWhile fun c => c = ' ' || c = '\t')
      else none
    let clock ← clock? time
    some { year, month, day, clock := some clock }

/-- A date alone shows as one only with two digits for the month and the day. -/
def isMoment (cs : List Char) : Bool :=
  (momentParts? cs).any fun m => m.clock.isSome || cs.length = 10

def beforeLineEnd (cs : List Char) : List Char :=
  if cs.getLast? = some '\n' then cs.dropLast else cs

def ofChars (cs : List Char) : Kind :=
  if isBool cs then bool
  else if isFloat cs then float
  else if isInt cs then int
  else if isNull cs then null
  else if isMoment cs then moment
  else if cs = ['<', '<'] then merge
  else if cs = ['='] then value
  else if cs = ['!'] ∨ cs = ['&'] ∨ cs = ['*'] then foreign
  else text

/-- The kind that the text of a scalar shows. A line end after it does not count, but makes
a text of what is nothing else. -/
def ofText (content : Text) : Kind :=
  match content.chars? with
  | none => text
  | some ['\n'] => text
  | some cs => ofChars (beforeLineEnd cs)

end Kind

end DroidRoots.Yaml
