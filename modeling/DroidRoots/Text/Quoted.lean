import DroidRoots.Text.Printable

/-! Quoted texts. A text stands between single quotes, or between double quotes if
it holds a single quote and no double one. The quote and the backslash are escaped
by a backslash, and a character that is not printable by its hexadecimal number. -/

namespace DroidRoots.Text

def hexDigits (n : Nat) : Text := ofChars (Nat.toDigits 16 n)

def hexPadded (width n : Nat) : Text :=
  List.replicate (width - (hexDigits n).length) (.char '0') ++ hexDigits n

def escapeUnprintable (c : CodePoint) : Text :=
  let n := c.toNat
  if c = '\t' then ['\\', 't']
  else if c = '\n' then ['\\', 'n']
  else if c = '\x0d' then ['\\', 'r']
  else if n < 0x100 then '\\' :: 'x' :: hexPadded 2 n
  else if n < 0x10000 then '\\' :: 'u' :: hexPadded 4 n
  else '\\' :: 'U' :: hexPadded 8 n

def quoteFor (text : Text) : CodePoint :=
  if .char '\x27' ∈ text ∧ .char '\x22' ∉ text then '\x22' else '\x27'

def quoted (text : Text) : Text :=
  let quote := quoteFor text
  let one (c : CodePoint) : Text :=
    if c = quote ∨ c = '\\' then ['\\', c]
    else if isPrintable c then [c]
    else escapeUnprintable c
  quote :: text.flatMap one ++ [quote]

end DroidRoots.Text
