import Titling.Text.WordRanges

/-! Characters of which names are made. -/

namespace Titling.Text

/-- Tells whether a character is a letter, a digit, another numeric character or an underscore. -/
def isWord (char : Char) : Bool :=
  char.isAlphanum || char == '_' || (0x80 ≤ char.toNat && inRanges wordRanges char)

end Titling.Text
