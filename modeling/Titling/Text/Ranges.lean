/-! Sets of characters given by ranges of code points. -/

namespace Titling.Text

/-- The first and the last code point of a run of characters. -/
abbrev Range := Nat × Nat

/-- Tells whether a character lies in one of the ranges. -/
def inRanges (ranges : List Range) (char : Char) : Bool :=
  ranges.any fun range => range.1 ≤ char.toNat && char.toNat ≤ range.2

end Titling.Text
