/-! Binary floating-point numbers as exact integers times powers of two. -/

namespace Titling.Decimal

/-- A binary64 number; a finite one is its significand times a power of two. -/
inductive Binary64 where
  | nan
  | infinite (negative : Bool)
  | finite (negative : Bool) (significand : Nat) (exponent : Int)
deriving DecidableEq, Repr

/-- The significand at which the spacing of the numbers below is half the spacing above. -/
def hiddenBit : Nat := 0x10000000000000

/-- The exponent of the smallest numbers, which do without the hidden bit. -/
def leastExponent : Int := -1074

/-- The exponent of the largest numbers. -/
def greatestExponent : Int := 971

/-- Two to the power of `count`. -/
def twoTo (count : Nat) : Nat :=
  Nat.pow 2 count

/-- Ten to the power of `count`. -/
def tenTo (count : Nat) : Nat :=
  Nat.pow 10 count

/-- A quotient rounded to the nearest integer, and a tie to the even one. -/
def roundDiv (numerator denominator : Nat) : Nat :=
  -- The remainder is compared with half of the denominator.
  let below := numerator / denominator
  let twice := 2 * (numerator % denominator)
  if twice < denominator ∨ (twice = denominator ∧ below % 2 = 0) then below else below + 1

/-- The number of decimal digits of a natural number, one for zero. -/
def digitCount (value : Nat) : Nat :=
  (Nat.toDigits 10 value).length

/-- The binary64 number nearest to a positive quotient. -/
def nearestQuotient (negative : Bool) (numerator denominator : Nat) : Binary64 :=
  let scaled (exponent : Int) : Nat × Nat :=
    (numerator * twoTo (-exponent).toNat, denominator * twoTo exponent.toNat)
  -- The guess is right or one too high; the smallest numbers share one exponent.
  let guess := (numerator.log2 : Int) - (denominator.log2 : Int) - 52
  let normal := if (scaled guess).1 / (scaled guess).2 < hiddenBit then guess - 1 else guess
  let exponent := max normal leastExponent
  let significand := roundDiv (scaled exponent).1 (scaled exponent).2
  -- Rounding up may reach the next power of two.
  let (significand, exponent) :=
    if significand = 2 * hiddenBit then (hiddenBit, exponent + 1) else (significand, exponent)
  if greatestExponent < exponent then .infinite negative
  else .finite negative significand exponent

/-- The binary64 number nearest to `digits` times a power of ten. -/
def Binary64.ofScaled (negative : Bool) (digits : Nat) (exponent : Int) : Binary64 :=
  let magnitude := (digitCount digits : Int) + exponent
  -- Far outside the range the answer is known without computing the power.
  if digits = 0 ∨ magnitude < -330 then .finite negative 0 leastExponent
  else if 320 < magnitude then .infinite negative
  else nearestQuotient negative (digits * tenTo exponent.toNat) (tenTo (-exponent).toNat)

end Titling.Decimal
