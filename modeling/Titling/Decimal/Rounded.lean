import Titling.Decimal.Shortest

/-! Binary numbers rounded to a given count of decimal digits; a tie goes to the even digit. -/

namespace Titling.Decimal

/-- The integer nearest to `significand * 2 ^ exponent / 10 ^ power`. -/
def roundAt (significand : Nat) (exponent power : Int) : Nat :=
  roundDiv (significand * twoTo exponent.toNat * tenTo (-power).toNat)
    (twoTo (-exponent).toNat * tenTo power.toNat)

/-- Lowers a power of ten until it is not above the number. -/
def lowerPower (significand : Nat) (exponent : Int) : (tries : Nat) → (power : Int) → Int
  | 0, power => power
  | tries + 1, power =>
    let number := significand * twoTo exponent.toNat * tenTo (-power).toNat
    let unit := twoTo (-exponent).toNat * tenTo power.toNat
    if unit ≤ number then power else lowerPower significand exponent tries (power - 1)

/-- The power of ten of the first digit of a positive number. -/
def leadingPower (significand : Nat) (exponent : Int) : Int :=
  lowerPower significand exponent 8 (coarsestPower significand exponent)

/-- A number rounded to `count + 1` digits, the first of which stands at the answer's power. -/
def significantDigits (significand : Nat) (exponent : Int) (count : Nat) : Nat × Int :=
  if significand = 0 then (0, 0)
  else
    let power := leadingPower significand exponent
    let digits := roundAt significand exponent (power - count)
    -- Rounding up may add a digit, which is then a one before zeros.
    if digits < tenTo (count + 1) then (digits, power) else (digits / 10, power + 1)

end Titling.Decimal
