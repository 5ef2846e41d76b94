import DroidRoots.Text.CodePoint

/-! Blank characters, trimming, and the pieces of a text between separators.
A blank is any character that Unicode counts as white space or that separates
records in ASCII (28 to 31); zero-width characters are no blanks. -/

namespace DroidRoots.Text

def isBlank (c : CodePoint) : Bool :=
  let n := c.toNat
  (9 ≤ n && n ≤ 13) || (28 ≤ n && n ≤ 32) || n == 0x85 || n == 0xA0 || n == 0x1680 ||
    (0x2000 ≤ n && n ≤ 0x200A) || n == 0x2028 || n == 0x2029 || n == 0x202F || n == 0x205F ||
    n == 0x3000

def trimStart (text : Text) : Text := text.dropWhile isBlank

def trimEnd (text : Text) : Text := (text.reverse.dropWhile isBlank).reverse

def trim (text : Text) : Text := trimEnd (trimStart text)

/-- The runs between separators, in order: one more than there are separators. -/
def pieces {α : Type} [DecidableEq α] (separator : α) : List α → List (List α)
  | [] => [[]]
  | c :: cs =>
    if c = separator then [] :: pieces separator cs
    else match pieces separator cs with
      | [] => [[c]]
      | piece :: rest => (c :: piece) :: rest

theorem pieces_ne_nil {α : Type} [DecidableEq α] (separator : α) (cs : List α) :
    pieces separator cs ≠ [] := by
  cases cs with
  | nil => simp [pieces]
  | cons c cs => simp only [pieces]; split <;> (try split) <;> simp

def items (text : Text) : List Text :=
  ((pieces (',' : CodePoint) text).map trim).filter (· ≠ [])

end DroidRoots.Text
