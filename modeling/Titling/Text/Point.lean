/-! Code points of text that may be broken: halves of pairs can stand in it without each other. -/

namespace Titling.Text

/-- A character, or half of a surrogate pair whose other half is missing. -/
inductive Point where
  | char (symbol : Char)
  | half (unit : Nat)
deriving DecidableEq, Repr

namespace Point

/-- The character that a point is, if it is one. -/
def char? : Point → Option Char
  | .char symbol => some symbol
  | .half _ => none

/-- What is shown for a point; a half is shown as an unknown character. -/
def shown : Point → Char
  | .char symbol => symbol
  | .half _ => Char.ofNat 0xFFFD

end Point

/-- The points of a text. -/
def pointsOf (text : String) : List Point :=
  text.toList.map .char

/-- The text that points form if none of them is a half. -/
def textOf? (points : List Point) : Option String :=
  (points.mapM Point.char?).map String.ofList

/-- The text that points form, with halves shown as unknown characters. -/
def shownText (points : List Point) : String :=
  String.ofList (points.map Point.shown)

end Titling.Text
