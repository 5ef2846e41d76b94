/-! Binary64 numbers as exact values: a mantissa below 2^53 times a power of two
from -1074 to 971, infinities, and not-a-number. Everything is rounded from exact
ratios of naturals, to the nearest number, a tie going to the even mantissa. -/

namespace DroidRoots

def twoTo (n : Nat) : Nat := Nat.pow 2 n

def tenTo (n : Nat) : Nat := Nat.pow 10 n

inductive Binary64
  | nan
  | infinite (negative : Bool)
  | finite (negative : Bool) (mantissa : Nat) (exponent : Int)
  deriving DecidableEq, Repr

namespace Binary64

def zero (negative : Bool) : Binary64 := .finite negative 0 (-1074)

def isZero : Binary64 → Bool
  | .finite _ 0 _ => true
  | _ => false

/-- The integer nearest to a ratio, a tie going to the even one. -/
def divideToEven (num den : Nat) : Nat :=
  let quotient := num / den
  let twice := 2 * (num % den)
  if twice < den then quotient
  else if den < twice then quotient + 1
  else quotient + quotient % 2

def leastExponent : Int := -1074
def greatestExponent : Int := 971

def scaled (num den : Nat) (exponent : Int) : Nat × Nat :=
  if 0 ≤ exponent then (num, den * twoTo exponent.toNat)
  else (num * twoTo (-exponent).toNat, den)

def ofRatio (negative : Bool) (num den : Nat) : Binary64 :=
  if num = 0 then zero negative
  else
    let guess : Int := (Nat.log2 num : Int) - (Nat.log2 den : Int) - 52
    let small := scaled num den guess
    let exact := if small.1 / small.2 < twoTo 52 then guess - 1 else guess
    let exponent := max exact leastExponent
    let (n, d) := scaled num den exponent
    let mantissa := divideToEven n d
    let (mantissa, exponent) :=
      if mantissa = twoTo 53 then (twoTo 52, exponent + 1) else (mantissa, exponent)
    if greatestExponent < exponent then .infinite negative
    else .finite negative mantissa exponent

/-- The number nearest to digits · 10^exponent. A decimal whose first digit lies far
outside the range of the format is not expanded. -/
def ofDecimal (negative : Bool) (digits : Nat) (exponent : Int) : Binary64 :=
  let size : Int := (Nat.log2 digits : Int) * 30103 / 100000 + exponent
  if digits = 0 ∨ size < -400 then zero negative
  else if 400 < size then .infinite negative
  else if 0 ≤ exponent then ofRatio negative (digits * tenTo exponent.toNat) 1
  else ofRatio negative digits (tenTo (-exponent).toNat)

def ofInt (i : Int) : Binary64 := ofRatio (i < 0) i.natAbs 1

def ratio (mantissa : Nat) (exponent : Int) : Nat × Nat :=
  if 0 ≤ exponent then (mantissa * twoTo exponent.toNat, 1)
  else (mantissa, twoTo (-exponent).toNat)

def toInt? : Binary64 → Option Int
  | .finite negative mantissa exponent =>
    let (num, den) := ratio mantissa exponent
    if num % den = 0 then
      let magnitude : Int := (num / den : Nat)
      some (if negative then -magnitude else magnitude)
    else none
  | _ => none

def negate : Binary64 → Binary64
  | .nan => .nan
  | .infinite negative => .infinite !negative
  | .finite negative mantissa exponent => .finite (!negative) mantissa exponent

/-- The sum, rounded; used on finite numbers of one sign. -/
def add : Binary64 → Binary64 → Binary64
  | .finite n m e, .finite n' m' e' =>
    let (a, b) := ratio m e
    let (c, d) := ratio m' e'
    let signed (negative : Bool) (magnitude : Nat) : Int :=
      if negative then -(magnitude : Int) else magnitude
    let sum := signed n (a * d) + signed n' (c * b)
    if sum = 0 then zero (n && n') else ofRatio (sum < 0) sum.natAbs (b * d)
  | .nan, _ | _, .nan => .nan
  | .infinite n, .infinite n' => if n = n' then .infinite n else .nan
  | .infinite n, _ | _, .infinite n => .infinite n

/-- The product, rounded; used with finite numbers on the right. -/
def mul : Binary64 → Binary64 → Binary64
  | .finite n m e, .finite n' m' e' =>
    let (a, b) := ratio m e
    let (c, d) := ratio m' e'
    ofRatio (n != n') (a * c) (b * d)
  | .nan, _ | _, .nan => .nan
  | .infinite n, other | other, .infinite n =>
    match other with
    | .finite n' m _ => if m = 0 then .nan else .infinite (n != n')
    | .infinite n' => .infinite (n != n')
    | .nan => .nan

/-- Numeric equality: the two zeros are equal, not-a-number equals nothing. -/
def equals : Binary64 → Binary64 → Bool
  | .nan, _ | _, .nan => false
  | x, y => (x.isZero && y.isZero) || x = y

end Binary64

end DroidRoots
