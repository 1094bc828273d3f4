import Titling.Text.Ranges

/-! White space as Unicode has it, with the four information separators counted in. -/

namespace Titling.Text

/-- The white space characters: tab to carriage return, the separators and the spaces. -/
def blankRanges : List Range :=
  [(0x09, 0x0D), (0x1C, 0x20), (0x85, 0x85), (0xA0, 0xA0), (0x1680, 0x1680), (0x2000, 0x200A),
   (0x2028, 0x2029), (0x202F, 0x202F), (0x205F, 0x205F), (0x3000, 0x3000)]

/-- Tells whether a character is white space. -/
def isBlank (char : Char) : Bool :=
  inRanges blankRanges char

/-- Takes white space off both ends. -/
def trim (text : List Char) : List Char :=
  ((text.dropWhile isBlank).reverse.dropWhile isBlank).reverse

end Titling.Text
