import DroidRoots.Number.Shortest

/-! How a number is written. The digits are the shortest that read back; a layout
says where positional notation ends and how an exponent looks. -/

namespace DroidRoots

structure Layout where
  /-- The exponents of the first digit for which the notation is positional. -/
  positionalFrom : Int
  positionalTo : Int
  wholeTail : String
  mark : String
  exponentWidth : Nat
  nan : String
  infinity : String

namespace Layout

/-- Reports are positional from 10^-4 to below 10^16, and an exponent has a sign
and at least two digits. -/
def report : Layout :=
  { positionalFrom := -4
    positionalTo := 15
    wholeTail := ".0"
    mark := "e"
    exponentWidth := 2
    nan := "nan"
    infinity := "inf" }

def json : Layout := { report with nan := "NaN", infinity := "Infinity" }

def zeros (n : Nat) : String := String.ofList (List.replicate n '0')

def positional (layout : Layout) (digits : String) (point : Int) : String :=
  let count : Int := digits.length
  if point ≤ 0 then "0." ++ zeros (-point).toNat ++ digits
  else if count ≤ point then digits ++ zeros (point - count).toNat ++ layout.wholeTail
  else
    String.ofList (digits.toList.take point.toNat) ++ "." ++
      String.ofList (digits.toList.drop point.toNat)

def scientific (layout : Layout) (digits : String) (exponent : Int) : String :=
  let fraction := String.ofList (digits.toList.drop 1)
  let magnitude := toString exponent.natAbs
  String.ofList (digits.toList.take 1) ++ (if fraction = "" then "" else "." ++ fraction) ++
    layout.mark ++ (if exponent < 0 then "-" else "+") ++
    zeros (layout.exponentWidth - magnitude.length) ++ magnitude

def significant (n : Nat) : String :=
  String.ofList ((toString n).toList.reverse.dropWhile (· = '0')).reverse

def unsigned (layout : Layout) (mantissa : Nat) (exponent : Int) : String :=
  if mantissa = 0 then "0" ++ layout.wholeTail
  else
    let (n, step) := Shortest.decimal mantissa exponent
    let point := step + (toString n).length
    let first := point - 1
    if layout.positionalFrom ≤ first ∧ first ≤ layout.positionalTo then
      layout.positional (significant n) point
    else layout.scientific (significant n) first

def text (layout : Layout) : Binary64 → String
  | .nan => layout.nan
  | .infinite negative => (if negative then "-" else "") ++ layout.infinity
  | .finite negative mantissa exponent =>
    (if negative then "-" else "") ++ layout.unsigned mantissa exponent

end Layout

end DroidRoots
