import DroidRoots.Value.Basic

/-! The tokens of a JSON text. Besides the standard grammar, the numbers NaN and
Infinity are read, the latter with either sign. -/

namespace DroidRoots.Json

inductive Token
  | openList
  | closeList
  | openObject
  | closeObject
  | comma
  | colon
  | scalar (s : Scalar)
  /-- A whole number, which is read only where a value may stand. -/
  | int (negative : Bool) (digits : List Char)
  deriving DecidableEq, Repr

def isSpace (c : Char) : Bool := c = ' ' || c = '\t' || c = '\n' || c = '\x0d'

def hexValue? (c : Char) : Option Nat :=
  if c.isDigit then some (c.toNat - '0'.toNat)
  else if 'a' ≤ c ∧ c ≤ 'f' then some (c.toNat - 'a'.toNat + 10)
  else if 'A' ≤ c ∧ c ≤ 'F' then some (c.toNat - 'A'.toNat + 10)
  else none

def hexNumber? (cs : List Char) : Option Nat :=
  cs.foldlM (fun n c => (hexValue? c).map fun d => 16 * n + d) 0

def simpleEscape? : Char → Option Char
  | '"' => some '"'
  | '\\' => some '\\'
  | '/' => some '/'
  | 'b' => some '\x08'
  | 'f' => some '\x0c'
  | 'n' => some '\n'
  | 'r' => some '\x0d'
  | 't' => some '\t'
  | _ => none

def textUnits? : List Nat → List Char → Option (List Nat × List Char)
  | _, [] => none
  | done, '"' :: rest => some (done, rest)
  | done, '\\' :: 'u' :: a :: b :: c :: d :: rest =>
    match hexNumber? [a, b, c, d] with
    | some n => textUnits? (n :: done) rest
    | none => none
  | done, '\\' :: c :: rest =>
    match simpleEscape? c with
    | some e => textUnits? (e.toNat :: done) rest
    | none => none
  | done, c :: rest => if c.toNat < 0x20 ∨ c = '\\' then none else textUnits? (c.toNat :: done) rest

theorem length_of_textUnits? {done units : List Nat} {cs after : List Char}
    (h : textUnits? done cs = some (units, after)) : after.length < cs.length := by
  fun_induction textUnits? done cs <;> simp_all <;> grind

def isHighSurrogate (n : Nat) : Bool := 0xD800 ≤ n && n < 0xDC00

def isLowSurrogate (n : Nat) : Bool := 0xDC00 ≤ n && n < 0xE000

/-- A pair of surrogates is one character; one that stands alone is kept. -/
def ofUnits : List Nat → Text
  | [] => []
  | [n] => [.ofNat n]
  | n :: m :: rest =>
    if isHighSurrogate n && isLowSurrogate m then
      .ofNat (0x10000 + (n - 0xD800) * 0x400 + (m - 0xDC00)) :: ofUnits rest
    else .ofNat n :: ofUnits (m :: rest)

def digitsValue (cs : List Char) : Nat :=
  cs.foldl (fun n c => 10 * n + (c.toNat - '0'.toNat)) 0

def isDigit (c : Char) : Bool := c.isDigit

def fraction (cs : List Char) : List Char × List Char :=
  match cs with
  | '.' :: rest =>
    if (rest.takeWhile isDigit).isEmpty then ([], cs)
    else (rest.takeWhile isDigit, rest.dropWhile isDigit)
  | _ => ([], cs)

def signed (cs : List Char) : Bool × List Char :=
  match cs with
  | '-' :: rest => (true, rest)
  | '+' :: rest => (false, rest)
  | _ => (false, cs)

def exponent? (cs : List Char) : Option (Int × List Char) :=
  match cs with
  | [] => none
  | c :: rest =>
    let (negative, digits) := signed rest
    let run := digits.takeWhile isDigit
    if (c ≠ 'e' ∧ c ≠ 'E') ∨ run.isEmpty then none
    else
      let size : Int := digitsValue run
      some (if negative then -size else size, digits.dropWhile isDigit)

theorem length_dropWhile_le (p : Char → Bool) (cs : List Char) :
    (cs.dropWhile p).length ≤ cs.length :=
  (List.dropWhile_suffix p).length_le

theorem length_fraction_le (cs : List Char) : (fraction cs).2.length ≤ cs.length := by
  unfold fraction
  split
  · rename_i rest
    split
    · simp
    · have := length_dropWhile_le isDigit rest
      simp only [List.length_cons]
      omega
  · simp

theorem length_signed_le (cs : List Char) : (signed cs).2.length ≤ cs.length := by
  unfold signed
  split <;> simp

theorem length_of_exponent? {cs after : List Char} {e : Int}
    (h : exponent? cs = some (e, after)) : after.length ≤ cs.length := by
  unfold exponent? at h
  split at h
  · cases h
  · rename_i c rest
    simp only at h
    split at h
    · cases h
    · cases h
      have := length_dropWhile_le isDigit (signed rest).2
      have := length_signed_le rest
      simp only [List.length_cons]
      omega

def whole? : List Char → Option (List Char × List Char)
  | [] => none
  | c :: rest =>
    if c = '0' then some ([c], rest)
    else if isDigit c then some (c :: rest.takeWhile isDigit, rest.dropWhile isDigit)
    else none

theorem length_of_whole? {cs digits after : List Char}
    (h : whole? cs = some (digits, after)) : after.length < cs.length := by
  unfold whole? at h
  split at h
  · cases h
  · rename_i c rest
    have := length_dropWhile_le isDigit rest
    simp only [List.length_cons]
    split at h
    · cases h
      omega
    · split at h
      · cases h
        omega
      · cases h

def ofParts (negative : Bool) (whole decimals after : List Char) : Token × List Char :=
  let digits := digitsValue (whole ++ decimals)
  let float (e : Int) : Token := .scalar (.float (.ofDecimal negative digits e))
  match exponent? after with
  | some (e, rest) => (float (e - decimals.length), rest)
  | none =>
    if decimals.isEmpty then (.int negative whole, after)
    else (float (-decimals.length), after)

theorem length_ofParts_le (negative : Bool) (whole decimals after : List Char) :
    (ofParts negative whole decimals after).2.length ≤ after.length := by
  unfold ofParts
  simp only
  split
  · rename_i found
    exact length_of_exponent? found
  · split <;> exact Nat.le_refl _

def magnitude? (negative : Bool) (cs : List Char) : Option (Token × List Char) :=
  match whole? cs with
  | none => none
  | some (whole, after) =>
    some (ofParts negative whole (fraction after).1 (fraction after).2)

theorem length_of_magnitude? {negative : Bool} {cs after : List Char} {token : Token}
    (h : magnitude? negative cs = some (token, after)) : after.length < cs.length := by
  unfold magnitude? at h
  split at h
  · cases h
  · rename_i whole rest found
    have := length_of_whole? found
    have := length_fraction_le rest
    have := length_ofParts_le negative whole (fraction rest).1 (fraction rest).2
    rw [Option.some.inj h] at this
    simp only at this
    omega

def first? : List Char → Option (Token × List Char)
  | '[' :: rest => some (.openList, rest)
  | ']' :: rest => some (.closeList, rest)
  | '\x7b' :: rest => some (.openObject, rest)
  | '\x7d' :: rest => some (.closeObject, rest)
  | ',' :: rest => some (.comma, rest)
  | ':' :: rest => some (.colon, rest)
  | 'n' :: 'u' :: 'l' :: 'l' :: rest => some (.scalar .null, rest)
  | 't' :: 'r' :: 'u' :: 'e' :: rest => some (.scalar (.bool true), rest)
  | 'f' :: 'a' :: 'l' :: 's' :: 'e' :: rest => some (.scalar (.bool false), rest)
  | 'N' :: 'a' :: 'N' :: rest => some (.scalar (.float .nan), rest)
  | 'I' :: 'n' :: 'f' :: 'i' :: 'n' :: 'i' :: 't' :: 'y' :: rest =>
    some (.scalar (.float (.infinite false)), rest)
  | '-' :: 'I' :: 'n' :: 'f' :: 'i' :: 'n' :: 'i' :: 't' :: 'y' :: rest =>
    some (.scalar (.float (.infinite true)), rest)
  | '"' :: rest =>
    (textUnits? [] rest).map fun (units, after) =>
      (.scalar (.text (ofUnits units.reverse)), after)
  | '-' :: rest => magnitude? true rest
  | cs => magnitude? false cs

theorem length_of_first? {cs after : List Char} {token : Token}
    (h : first? cs = some (token, after)) : after.length < cs.length := by
  unfold first? at h
  split at h
  case h_13 rest =>
    obtain ⟨⟨units, a⟩, found, same⟩ := Option.map_eq_some_iff.1 h
    cases same
    have := length_of_textUnits? found
    simp only [List.length_cons]
    omega
  case h_14 rest _ =>
    have := length_of_magnitude? h
    simp only [List.length_cons]
    omega
  case h_15 => exact length_of_magnitude? h
  all_goals
    cases h
    simp only [List.length_cons]
    omega

end DroidRoots.Json
