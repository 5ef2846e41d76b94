import DroidRoots.Text.CodePoint

/-! The output of a command. A text that the encoding of the output has no place for is not printed
at all, but every encoding has a place for ASCII. -/

namespace DroidRoots

structure Console where
  takes : Text → Bool
  takes_ascii : ∀ text : Text, text.IsAscii → takes text = true

namespace Console

def buffer : Console where
  takes _ := true
  takes_ascii _ _ := rfl

def utf8 : Console where
  takes text := text.chars?.isSome
  takes_ascii text ascii := by
    obtain ⟨cs, rfl⟩ := ascii.exists_chars
    rw [Text.chars?_ofChars]
    rfl

end Console

end DroidRoots
