import Titling.Message.Spec
import Titling.Value

/-! Numbers fitted into messages: bases, digit groups, rounding and filling. -/

namespace Titling.Message

open Titling.Decimal

/-- Why a template gives no message. -/
inductive Fault where
  | malformed
  | missingName
  | outOfRange
  | noAttribute
  | unsupported
  | tooLarge
  | tooWide
  | overlongInteger
deriving DecidableEq, Repr

/-- The fault that a value without a text is. -/
def Fault.ofTextError : Value.TextError → Fault
  | .overlongInteger => .overlongInteger

/-- The parts of a number: sign, mark of its base, digits before the point, and all after them. -/
structure NumberParts where
  negative : Bool
  mark : List Char := []
  digits : List Char
  rest : List Char := []

/--
Digits from the last to the first in groups, with a separator between groups. Zeros in front make up
`room` places as far as digits and separators leave some free.
-/
def groupReversed (size : Nat) (separator : Char) :
    (fuel : Nat) → (reversed : List Char) → (room : Nat) → List Char
  | 0, reversed, _ => reversed
  | fuel + 1, reversed, room =>
    -- The first group is as long as the digits and the room allow.
    let length := min size (max (max reversed.length room) 1)
    let group := reversed.take length
    let padded := group ++ List.replicate (length - group.length) '0'
    let left := reversed.drop length
    if left.isEmpty && room ≤ length then padded
    else padded ++ separator :: groupReversed size separator fuel left (room - length - 1)

/-- The digits of a number in groups and with zeros in front, as a specification has them. -/
def layDigits (spec : Spec) (digits : List Char) (room : Nat) : List Char :=
  match spec.separator with
  | none => List.replicate (room - digits.length) '0' ++ digits
  | some separator =>
    -- Digits of a power of two are grouped by fours, and all others by threes.
    let binary := ['b', 'o', 'x', 'X'].contains (spec.type.getD 'd')
    let size := if binary then 4 else 3
    (groupReversed size separator (digits.length + room + 1) digits.reverse room).reverse

/-- What stands in front of a number for its sign. -/
def signText (spec : Spec) (negative : Bool) : List Char :=
  -- A minus is written whatever the specification says about signs.
  if negative then ['-']
  else match spec.sign with
    | some .plus => ['+']
    | some .space => [' ']
    | _ => []

/-- A number laid out as a specification has it, in a field that is not too wide. -/
def fittedNumber (spec : Spec) (parts : NumberParts) : List Char :=
  let sign := signText spec parts.negative
  let fixed := sign.length + parts.mark.length + parts.rest.length
  -- Only zeros behind the sign count as digits.
  let zeros := spec.fill = '0' ∧ spec.align = .afterSign
  let room := if zeros then spec.width.getD 0 - fixed else 0
  -- A name such as that of infinity has no digits to group.
  let digits := if parts.digits.isEmpty then [] else layDigits spec parts.digits room
  let (before, behindSign, after) := spec.padding (fixed + digits.length)
  before ++ sign ++ parts.mark ++ behindSign ++ digits ++ parts.rest ++ after

/-- A number laid out as a specification has it, unless the field is too wide. -/
def layNumber (spec : Spec) (parts : NumberParts) : Except Fault (List Char) :=
  if spec.isTooWide then .error .tooWide else .ok (fittedNumber spec parts)

/-- The base that a type writes integers in, with the letter of its mark. -/
def baseOf : Char → Nat × Option Char
  | 'b' => (2, some 'b')
  | 'o' => (8, some 'o')
  | 'x' => (16, some 'x')
  | 'X' => (16, some 'X')
  | _ => (10, none)

/-- An integer laid out in the base of its type; only decimal digits may be too many. -/
def layInteger (spec : Spec) (value : Int) : Except Fault (List Char) :=
  let type := spec.type.getD 'd'
  let (base, letter) := baseOf type
  -- The limit is one of decimal digits, so that all other bases write any integer.
  if base = 10 ∧ !Decimal.isWritable value then .error .overlongInteger
  else
    let digits := Nat.toDigits base value.natAbs
    let digits := if type = 'X' then digits.map Char.toUpper else digits
    let mark := match spec.alternate, letter with
      | true, some letter => ['0', letter]
      | _, _ => []
    layNumber spec { negative := value < 0, mark, digits }

/-- The character with the code that an integer is. -/
def layCharacter (spec : Spec) (value : Int) : Except Fault (List Char) :=
  if spec.sign.isSome ∨ spec.alternate then .error .malformed
  -- Only a code point has a character.
  else if value < 0 ∨ 0x10FFFF < value then .error .tooLarge
  else layNumber spec { negative := false, digits := [], rest := [Char.ofNat value.toNat] }

/-- How the digits of a float are chosen and where its exponent begins. -/
inductive FloatForm where
  /-- A fixed number of places behind the point. -/
  | fixed (places : Nat)
  /-- One digit before the point and some behind it. -/
  | scientific (places : Nat)
  /-- A number of digits, with an exponent for large and small numbers; `pointed` keeps a point. -/
  | general (count : Nat) (pointed : Bool)
  /-- As many digits as it takes to read the number back. -/
  | shortest
deriving DecidableEq, Repr

/-- Takes the zeros off the end of some digits, down to one digit. -/
def withoutLastZeros (digits : List Char) : List Char :=
  -- A zero without its zeros would have no digit left.
  match (digits.reverse.dropWhile (· = '0')).reverse with
  | [] => ['0']
  | kept => kept

/-- Adds a point to digits that have none, in front of an exponent. -/
def withPoint (mark : Char) (text : List Char) : List Char :=
  -- An exponent stands behind the mark, and the point belongs in front of it.
  let mantissa := text.takeWhile (· ≠ mark)
  if mantissa.contains '.' then text else mantissa ++ '.' :: text.drop mantissa.length

/-- Beyond this many places or digits every number has nothing but zeros. -/
def exactPlaces : Nat := leastExponent.natAbs

/-- Adds zeros for the places that were asked for beyond those that were computed. -/
def withLastZeros (wanted computed : Nat) (digits : List Char) : List Char :=
  digits ++ List.replicate (wanted - computed) '0'

/-- A finite float without its sign in one of the forms. -/
def floatDigits (form : FloatForm) (alternate : Bool) (significand : Nat) (exponent : Int) :
    List Char :=
  let pointed (text : List Char) := if alternate then withPoint 'e' text else text
  match form with
  -- All places beyond those that a number can have are zeros, and need not be computed.
  | .fixed places =>
    let kept := min places exactPlaces
    let text := fixedText (roundAt significand exponent (-(kept : Int))) kept
    pointed (withLastZeros places kept text)
  | .scientific places =>
    let kept := min places exactPlaces
    let (digits, power) := significantDigits significand exponent kept
    let digits := withLastZeros places kept (padded (kept + 1) digits)
    pointed (scientificText 'e' digits power)
  | .general count dotted =>
    let kept := min count (exactPlaces + 1)
    let (digits, power) := significantDigits significand exponent (kept - 1)
    let digits := padded kept digits
    let digits := if alternate then withLastZeros count kept digits else withoutLastZeros digits
    -- A number that has to keep a point turns to an exponent one place earlier.
    let style : Style :=
      -- The least exponent is the same for all counts of digits.
      ⟨-4, if dotted then (count : Int) - 1 else count, dotted⟩
    pointed (style.write 'e' digits power)
  | .shortest =>
    pointed (Value.floatText (.finite false significand exponent)).toList

/-- A float without filling, in lower case; a negative zero may lose its sign. -/
def floatParts (form : FloatForm) (spec : Spec) : Binary64 → Bool × List Char
  | .nan => (false, "nan".toList)
  | .infinite negative => (negative, "inf".toList)
  | .finite negative significand exponent =>
    let text := floatDigits form spec.alternate significand exponent
    let isZero := (text.takeWhile (· ≠ 'e')).all fun char => char = '0' ∨ char = '.'
    (negative && !(spec.dropsNegativeZero && isZero), text)

/-- A finite float times one hundred. -/
def hundredfold : Binary64 → Binary64
  | .finite negative significand exponent =>
    if significand = 0 then .finite negative 0 exponent
    else nearestQuotient negative (significand * 100 * twoTo exponent.toNat)
      (twoTo (-exponent).toNat)
  | other => other

/-- The greatest precision of a float. -/
def maxPrecision : Nat := 0x7FFFFFFF

/-- The form that the type of a specification asks for; `none` if there is no such type. -/
def floatForm? (spec : Spec) : Option FloatForm :=
  -- Where no precision is given, six places are shown.
  let places := spec.precision.getD 6
  match spec.type with
  -- The character with the code zero names no type.
  | none | some '\x00' =>
    match spec.precision with
    | none => some .shortest
    | some count => some (.general (max count 1) true)
  | some 'e' | some 'E' =>
    -- The greatest precision has no room left for the digit before the point, and counts as none.
    some (.scientific (if places = maxPrecision then 0 else places))
  | some 'f' | some 'F' | some '%' => some (.fixed places)
  | some 'g' | some 'G' | some 'n' => some (.general (max places 1) false)
  | _ => none

/-- A float laid out as a specification has it. -/
def layFloat (spec : Spec) (value : Binary64) : Except Fault (List Char) :=
  match floatForm? spec with
  | none => .error .malformed
  | some form =>
    if maxPrecision < spec.precision.getD 0 then .error .malformed
    else
      let percent := spec.type = some '%'
      let (negative, text) := floatParts form spec (if percent then hundredfold value else value)
      -- A capital letter for the type is one for the exponent, and for infinity too.
      let upper := (spec.type.map Char.isUpper).getD false
      let text := if upper then text.map Char.toUpper else text
      let text := if percent then text ++ ['%'] else text
      let digits := text.takeWhile Char.isDigit
      layNumber spec { negative, digits, rest := text.drop digits.length }

/-- An integer laid out as a specification has it; the types of floats convert it first. -/
def layInt (spec : Spec) (value : Int) : Except Fault (List Char) :=
  match spec.type.getD 'd' with
  | 'c' =>
    if spec.precision.isSome ∨ spec.dropsNegativeZero then .error .malformed
    else layCharacter spec value
  | 'b' | 'd' | 'o' | 'x' | 'X' | 'n' =>
    if spec.precision.isSome ∨ spec.dropsNegativeZero then .error .malformed
    else layInteger spec value
  | 'e' | 'E' | 'f' | 'F' | 'g' | 'G' | '%' =>
    match Binary64.ofScaled (value < 0) value.natAbs 0 with
    | .infinite _ => .error .tooLarge
    | float => layFloat spec float
  | _ => .error .malformed

/-- A text laid out as a specification has it. -/
def layText (spec : Spec) (text : List Char) : Except Fault (List Char) :=
  -- Whatever has to do with numbers alone is refused for a text.
  let refused := spec.type ≠ some 's' ∨ spec.sign.isSome ∨ spec.dropsNegativeZero
    ∨ spec.alternate ∨ spec.align = .afterSign
  if refused then .error .malformed
  else if spec.isTooWide then .error .tooWide
  else
    let kept := text.take (spec.precision.getD text.length)
    let (before, _, after) := spec.padding kept.length
    .ok (before ++ kept ++ after)

end Titling.Message
