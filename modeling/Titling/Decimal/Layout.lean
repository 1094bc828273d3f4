import Titling.Decimal.Rounded

/-! Placing the point and the exponent of a decimal number. -/

namespace Titling.Decimal

/-- Which numbers are written with an exponent, by the power of ten of their first digit. -/
structure Style where
  /-- The least power that is written out with leading zeros. -/
  leastPositional : Int
  /-- The least power that is written with an exponent again. -/
  leastScientific : Int
  /-- Tells whether a whole number is written with a zero behind the point. -/
  keepsPoint : Bool
deriving DecidableEq, Repr

/-- The digits of a number, filled up with zeros in front to a least width. -/
def padded (width value : Nat) : List Char :=
  let digits := Nat.toDigits 10 value
  List.replicate (width - digits.length) '0' ++ digits

/-- An exponent with its sign and at least two digits. -/
def exponentText (mark : Char) (power : Int) : List Char :=
  mark :: (if power < 0 then '-' else '+') :: padded 2 power.natAbs

/-- Digits with `places` of them behind the point; no point is written before nothing. -/
def fixedText (digits places : Nat) : List Char :=
  let all := padded (places + 1) digits
  let whole := all.length - places
  if places = 0 then all else all.take whole ++ '.' :: all.drop whole

/-- Digits of which the first stands at a power of ten, with that power as exponent. -/
def scientificText (mark : Char) (digits : List Char) (power : Int) : List Char :=
  let mantissa := match digits with
    | first :: second :: rest => first :: '.' :: second :: rest
    | short => short
  mantissa ++ exponentText mark power

/-- Digits of which the first stands at a power of ten, written out in full. -/
def positionalText (keepsPoint : Bool) (digits : List Char) (power : Int) : List Char :=
  if power < 0 then
    -- The first digit stands as many places behind the point as its power says.
    '0' :: '.' :: List.replicate (power.natAbs - 1) '0' ++ digits
  else
    -- A whole number is filled up with zeros to the point.
    let whole := power.toNat + 1
    let head := (digits ++ List.replicate (whole - digits.length) '0').take whole
    let tail := digits.drop whole
    match tail, keepsPoint with
    | [], false => head
    | [], true => head ++ ['.', '0']
    | _, _ => head ++ '.' :: tail

/-- Digits in the form that a style has for a number of their size. -/
def Style.write (style : Style) (mark : Char) (digits : List Char) (power : Int) : List Char :=
  if style.leastPositional ≤ power ∧ power < style.leastScientific then
    positionalText style.keepsPoint digits power
  else scientificText mark digits power

end Titling.Decimal
