/-! Numbers written in digits. -/

namespace Titling.Decimal

/-- Tells whether a character is a hexadecimal digit. -/
def isHexDigit (char : Char) : Bool :=
  char.isDigit || ('a' ≤ char && char ≤ 'f') || ('A' ≤ char && char ≤ 'F')

/-- The value of a digit in any base up to sixteen. -/
def digitValue (char : Char) : Nat :=
  if char.isDigit then char.toNat - 48
  else if char.toNat < 97 then char.toNat - 55
  else char.toNat - 87

/-- The number that a row of digits writes. -/
def numberOf (base : Nat) (digits : List Char) : Nat :=
  digits.foldl (fun value digit => value * base + digitValue digit) 0

/-- An integer with more decimal digits than this is neither read nor written. -/
def maxDigits : Nat := 4300

/-- Tells whether a row of decimal digits is too long to be read, leading zeros included. -/
def isOverlong (digits : List Char) : Bool :=
  maxDigits < digits.length

/-- The greatest size that an integer to be written in decimal digits stays below. -/
def writableBound : Nat := Nat.pow 10 maxDigits

/-- Tells whether an integer has few enough decimal digits to be written. -/
def isWritable (value : Int) : Bool :=
  value.natAbs < writableBound

end Titling.Decimal
