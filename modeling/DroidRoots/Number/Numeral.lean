import DroidRoots.Fault
import DroidRoots.Number.Binary64
import DroidRoots.Text.Blank
import DroidRoots.Text.Digit
import DroidRoots.Text.Quoted

/-! Numerals: texts that give a number. Blanks may stand around a numeral, a sign before its
digits, and the digits may be those of any script. An integer in base ten is read and
written only up to a limit on its digits. -/

namespace DroidRoots.Numeral

/-- The blanks around a numeral; separators of records are none. -/
def isBlank (c : CodePoint) : Bool := Text.isBlank c && !(28 ≤ c.toNat && c.toNat ≤ 31)

def letterValue? (c : CodePoint) : Option Nat :=
  let n := c.toNat
  if 97 ≤ n ∧ n ≤ 122 then some (n - 87)
  else if 65 ≤ n ∧ n ≤ 90 then some (n - 55)
  else none

def digit? (base : Nat) (c : CodePoint) : Option Nat :=
  ((Text.decimalValue? c).or (letterValue? c)).filter (· < base)

def isDigit (base : Nat) (c : CodePoint) : Bool := (digit? base c).isSome

def value (base : Nat) (digits : Text) : Nat :=
  (digits.filterMap (digit? base)).foldl (fun n d => base * n + d) 0

def signed : Text → Bool × Text
  | .char '-' :: rest => (true, rest)
  | .char '+' :: rest => (false, rest)
  | rest => (false, rest)

def marks : Nat → Text
  | 2 => ['b', 'B']
  | 8 => ['o', 'O']
  | 16 => ['x', 'X']
  | _ => []

def unmarked (base : Nat) : Text → Text
  | zero :: mark :: rest =>
    if Text.decimalValue? zero = some 0 ∧ mark ∈ marks base then rest else zero :: mark :: rest
  | rest => rest

def digitLimit : Nat := 4300

def ofSign (negative : Bool) (magnitude : Nat) : Int :=
  if negative then -(magnitude : Int) else magnitude

def ofDigits (negative : Bool) (digits : Text) : Except Fault Int :=
  if digitLimit < digits.length then .error (.overlongInteger digits.length)
  else .ok (ofSign negative (value 10 digits))

def isWritable (i : Int) : Bool := i.natAbs < tenTo digitLimit

def invalidInt (base : Nat) (text : Text) : Fault :=
  .nonexistent ("invalid literal for int() with base " ++ Text.ofNat base ++ ": " ++
    (Text.quoted text).take 200)

/-- The integer that a text gives in a base. Too many digits are noticed before what
follows them. -/
def int (base : Nat) (text : Text) : Except Fault Int := do
  let (negative, body) := signed (text.dropWhile isBlank)
  let body := unmarked base body
  let digits := body.takeWhile (isDigit base)
  let number ←
    if base = 10 then ofDigits negative digits
    else .ok (ofSign negative (value base digits))
  if digits.isEmpty || !(body.dropWhile (isDigit base)).all isBlank then
    throw (invalidInt base text)
  return number

def trimmed (text : Text) : Text :=
  ((text.dropWhile isBlank).reverse.dropWhile isBlank).reverse

def lowerLetter : CodePoint → CodePoint
  | .char c => .char c.toLower
  | other => other

def exponent? : Text → Option Int
  | [] => some 0
  | mark :: rest =>
    let (negative, digits) := signed rest
    if lowerLetter mark = 'e' ∧ digits ≠ [] ∧ digits.all (isDigit 10) then
      some (ofSign negative (value 10 digits))
    else none

def decimal? (negative : Bool) (text : Text) : Option Binary64 := do
  let whole := text.takeWhile (isDigit 10)
  let after := text.dropWhile (isDigit 10)
  let (places, after) := match after with
    | .char '.' :: rest => (rest.takeWhile (isDigit 10), rest.dropWhile (isDigit 10))
    | _ => ([], after)
  if whole.isEmpty && places.isEmpty then none
  let exponent ← exponent? after
  some (.ofDecimal negative (value 10 (whole ++ places)) (exponent - places.length))

def float? (text : Text) : Option Binary64 :=
  let (negative, body) := signed (trimmed text)
  let name := body.map lowerLetter
  if name = "inf" ∨ name = "infinity" then some (.infinite negative)
  else if name = "nan" then some .nan
  else decimal? negative body

def float (text : Text) : Except Fault Binary64 :=
  match float? text with
  | some x => .ok x
  | none => .error (.nonexistent ("could not convert string to float: " ++ Text.quoted text))

end DroidRoots.Numeral
