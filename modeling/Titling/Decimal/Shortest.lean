import Titling.Decimal.Binary64

/-! The fewest decimal digits that read back as the same binary number. -/

namespace Titling.Decimal

/-- Decimal digits behind a point, scaled by a power of ten: `digits` times ten to `exponent`. -/
structure Scaled where
  digits : Nat
  exponent : Int
deriving DecidableEq, Repr

/--
The interval of numbers that round to `significand * 2 ^ exponent`, in quarters of the last place:
the lower end, the number itself and the upper end.
-/
def roundingInterval (significand : Nat) (exponent : Int) : Nat × Nat × Nat :=
  -- Below a power of two the neighbours lie twice as close.
  let narrow := significand = hiddenBit ∧ leastExponent < exponent
  (4 * significand - (if narrow then 1 else 2), 4 * significand, 4 * significand + 2)

/-- The multiple of `10 ^ power` in the interval that lies nearest to its number. -/
def gridPoint? (significand : Nat) (exponent power : Int) : Option Nat :=
  let (low, middle, high) := roundingInterval significand exponent
  -- Both sides are scaled to integers: `unit` for quarters, `step` for grid points.
  let unit := twoTo (exponent - 2).toNat * tenTo (-power).toNat
  let step := twoTo (2 - exponent).toNat * tenTo power.toNat
  let below := middle * unit / step
  let inside (point : Nat) : Bool :=
    if significand % 2 = 0 then low * unit ≤ point * step ∧ point * step ≤ high * unit
    else low * unit < point * step ∧ point * step < high * unit
  let gapBelow := middle * unit - below * step
  let gapAbove := (below + 1) * step - middle * unit
  match inside below && 0 < below, inside (below + 1) with
  | true, true =>
    if gapBelow < gapAbove ∨ (gapBelow = gapAbove ∧ below % 2 = 0) then some below
    else some (below + 1)
  | true, false => some below
  | false, true => some (below + 1)
  | false, false => none

/-- Tries the grids from the coarsest on; the first one with a point in the interval wins. -/
def searchGrid (significand : Nat) (exponent : Int) : (tries : Nat) → (power : Int) → Scaled
  | 0, power => ⟨0, power⟩
  | tries + 1, power =>
    match gridPoint? significand exponent power with
    | some digits => ⟨digits, power⟩
    | none => searchGrid significand exponent tries (power - 1)

/-- A power of ten that is above the number, and at most three places too far up. -/
def coarsestPower (significand : Nat) (exponent : Int) : Int :=
  ((significand.log2 : Int) + exponent) * 30103 / 100000 + 2

/-- The shortest decimal that rounds to a positive number; seventeen digits always do. -/
def shortest (significand : Nat) (exponent : Int) : Scaled :=
  searchGrid significand exponent 24 (coarsestPower significand exponent)

end Titling.Decimal
