import DroidRoots.Number.Binary64

/-! The shortest decimal that reads back as a given number. For one digit, then
two, and so on, the two neighbours of the number on that decimal grid are tried;
the first grid with a neighbour inside the interval that rounds to the number
wins, of two such neighbours the nearer, of two equally near the even one. -/

namespace DroidRoots.Shortest

structure Interval where
  low : Nat
  value : Nat
  high : Nat
  unit : Nat
  closed : Bool

/-- The spacing below a power of two is half of the one above it, unless the
exponent is already the least. -/
def interval (mantissa : Nat) (exponent : Int) : Interval :=
  let (num, den) := Binary64.ratio 1 exponent
  let below := if mantissa = twoTo 52 ∧ Binary64.leastExponent < exponent then 1 else 2
  { low := (4 * mantissa - below) * num
    value := 4 * mantissa * num
    high := (4 * mantissa + 2) * num
    unit := 4 * den
    closed := mantissa % 2 = 0 }

def Interval.contains (i : Interval) (num den : Nat) : Bool :=
  let scaled := num * i.unit
  if i.closed then i.low * den ≤ scaled && scaled ≤ i.high * den
  else i.low * den < scaled && scaled < i.high * den

def decimalDigits (n : Nat) : Nat := (Nat.toDigits 10 n).length

def place (num den : Nat) : Int :=
  if den ≤ num then decimalDigits (num / den)
  else
    let zeros := decimalDigits (den / num)
    if num * tenTo (zeros - 1) < den then 1 - (zeros : Int) else 2 - (zeros : Int)

def neighbour? (i : Interval) (step : Int) : Option Nat :=
  let up := tenTo step.toNat
  let down := tenTo (-step).toNat
  let below := i.value * down / (i.unit * up)
  let above := below + 1
  let reach (n : Nat) : Bool := i.contains (n * up) down
  let twice := 2 * i.value * down
  let middle := (below + above) * i.unit * up
  match reach below, reach above with
  | false, false => none
  | true, false => some below
  | false, true => some above
  | true, true =>
    if twice < middle then some below
    else if middle < twice then some above
    else some (if below % 2 = 0 then below else above)

def search (i : Interval) (point : Int) : Nat → Nat → Nat × Int
  | 0, _ => (0, 0)
  | tries + 1, digits =>
    let step := point - digits
    match neighbour? i step with
    | some n => (n, step)
    | none => search i point tries (digits + 1)

/-- A positive finite number as digits · 10^step, with the fewest digits. -/
def decimal (mantissa : Nat) (exponent : Int) : Nat × Int :=
  let i := interval mantissa exponent
  search i (place i.value i.unit) 17 1

end DroidRoots.Shortest
