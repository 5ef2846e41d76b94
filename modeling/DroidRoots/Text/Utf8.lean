/-! Where a run of bytes stops being UTF-8. -/

namespace DroidRoots.Text

structure Utf8Rest where
  bytes : Nat := 0
  low : UInt8 := 0x80
  high : UInt8 := 0xBF

def Utf8Rest.ofLead? (byte : UInt8) : Option Utf8Rest :=
  if byte < 0x80 then some {}
  else if byte < 0xC2 then none
  else if byte < 0xE0 then some { bytes := 1 }
  else if byte < 0xF0 then
    some
      { bytes := 2
        low := if byte = 0xE0 then 0xA0 else 0x80
        high := if byte = 0xED then 0x9F else 0xBF }
  else if byte < 0xF5 then
    some
      { bytes := 3
        low := if byte = 0xF0 then 0x90 else 0x80
        high := if byte = 0xF4 then 0x8F else 0xBF }
  else none

def Utf8Rest.after? (rest : Utf8Rest) (byte : UInt8) : Option Utf8Rest :=
  if rest.bytes = 0 then Utf8Rest.ofLead? byte
  else if rest.low ≤ byte ∧ byte ≤ rest.high then some { bytes := rest.bytes - 1 }
  else none

/-- The place of the first byte that cannot follow those before it. An unfinished character
at the end is found behind the last byte. -/
def utf8Break? (rest : Utf8Rest) (place : Nat) : List UInt8 → Option Nat
  | [] => if rest.bytes = 0 then none else some place
  | byte :: more =>
    match rest.after? byte with
    | none => some place
    | some next => utf8Break? next (place + 1) more

end DroidRoots.Text
