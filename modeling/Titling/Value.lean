import Titling.Decimal.Digits
import Titling.Dictionary
import Titling.Moment
import Titling.Text.Quoted

/-! Values of variables, messages and settings, and the text that each is shown as. -/

namespace Titling

/-- A value as pages, catalogs and settings files hold it. -/
inductive Value where
  | null
  | bool (value : Bool)
  | int (value : Int)
  | float (value : Decimal.Binary64)
  | text (value : String)
  | moment (value : Moment)
  | list (items : List Value)
  | table (fields : List (String × Value))
deriving Inhabited

namespace Value

/-- Numbers below ten to the minus four or from ten to the sixteenth on have an exponent. -/
def floatStyle : Decimal.Style where
  leastPositional := -4
  leastScientific := 16
  keepsPoint := true

/-- A float in the fewest digits that read back as the same number. -/
def floatText : Decimal.Binary64 → String
  | .nan => "nan"
  | .infinite negative => if negative then "-inf" else "inf"
  | .finite negative significand exponent =>
    let sign := if negative then ['-'] else []
    let (digits, power) :=
      -- Zero has no shortest digits to be searched for: it is written with one zero.
      if significand = 0 then (['0'], (0 : Int))
      else
        let scaled := Decimal.shortest significand exponent
        let digits := Nat.toDigits 10 scaled.digits
        (digits, scaled.exponent + (digits.length : Int) - 1)
    String.ofList (sign ++ floatStyle.write 'e' digits power)

-- The least and the greatest power without an exponent, each beside its neighbour.
example : floatText (.ofScaled false 1 (-4)) = "0.0001" := by decide +kernel
example : floatText (.ofScaled false 1 (-5)) = "1e-05" := by decide +kernel
example : floatText (.ofScaled false 1 15) = "1000000000000000.0" := by decide +kernel
example : floatText (.ofScaled true 1 16) = "-1e+16" := by decide +kernel

/-- The word for no value. -/
def nullText : String := "None"

/-- A truth value as a word. -/
def boolText (value : Bool) : String :=
  if value then "True" else "False"

/-- Items between square brackets. -/
def listText (items : List String) : String :=
  "[" ++ ", ".intercalate items ++ "]"

/-- Fields between braces, each name in front of a colon. -/
def tableText (fields : List (String × String)) : String :=
  "\x7b" ++ ", ".intercalate (fields.map fun field => field.1 ++ ": " ++ field.2) ++ "\x7d"

/-- Why a value has no text. -/
inductive TextError where
  | overlongInteger
deriving DecidableEq, Repr

/-- An integer in decimal digits, unless it has too many of them. -/
def intText (value : Int) : Except TextError String :=
  if Decimal.isWritable value then .ok (toString value) else .error .overlongInteger

mutual

/-- A value as it stands inside a list or a table, with texts between quotes. -/
def literal : Value → Except TextError String
  | .null => .ok nullText
  | .bool value => .ok (boolText value)
  | .int value => intText value
  | .float value => .ok (floatText value)
  | .text value => .ok (Text.quoted value)
  | .moment value => .ok value.literal
  | .list items => (literalItems items).map listText
  | .table fields => (literalFields fields).map tableText

/-- The items of a list, each as it stands there. -/
def literalItems : List Value → Except TextError (List String)
  | [] => .ok []
  | item :: rest => do
    let first ← literal item
    let others ← literalItems rest
    return first :: others

/-- The fields of a table, each with its quoted name. -/
def literalFields : List (String × Value) → Except TextError (List (String × String))
  | [] => .ok []
  | (name, value) :: rest => do
    let first ← literal value
    let others ← literalFields rest
    return (Text.quoted name, first) :: others

end

/-- The text of a value: a text stands for itself, all else is as inside a list. -/
def display : Value → Except TextError String
  -- Only texts and moments are shown differently inside a list.
  | .text value => .ok value
  | .moment value => .ok value.display
  | value => value.literal

/-- Tells whether a value counts as true: zero and whatever is empty do not. -/
def isTruthy : Value → Bool
  | .null => false
  | .bool value => value
  | .int value => value != 0
  | .float (.finite _ significand _) => significand != 0
  | .float _ => true
  | .text value => !value.isEmpty
  | .moment _ => true
  | .list items => !items.isEmpty
  | .table fields => !fields.isEmpty

end Value

end Titling
