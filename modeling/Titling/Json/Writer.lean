import Titling.Value

/-! Writing JSON in ASCII alone. -/

namespace Titling.Json

open Titling.Text (hexDigits)

/-- A code unit as an escape. -/
def unitEscape (code : Nat) : List Char :=
  '\\' :: 'u' :: hexDigits 4 code

/-- One character of a string; beyond the first plane it takes a pair of code units. -/
def writeChar (char : Char) : List Char :=
  let code := char.toNat
  if char = '"' ∨ char = '\\' then ['\\', char]
  else if 0x20 ≤ code ∧ code < 0x7F then [char]
  else if code < 0x10000 then unitEscape code
  else
    -- Twenty bits are left, of which each half of the pair takes ten.
    let offset := code - 0x10000
    unitEscape (0xD800 + offset / 0x400) ++ unitEscape (0xDC00 + offset % 0x400)

/-- A string between quotes. -/
def writeString (text : String) : String :=
  String.ofList ('"' :: text.toList.flatMap writeChar ++ ['"'])

mutual

/-- The JSON of a value; a date or a time is written as a string. -/
def write : Value → String
  | .null => "null"
  | .bool value => if value then "true" else "false"
  | .int value => toString value
  | .float value => Value.floatText value
  | .text value => writeString value
  | .moment value => writeString value.display
  | .list items => "[" ++ ", ".intercalate (writeItems items) ++ "]"
  | .table fields => "\x7b" ++ ", ".intercalate (writeFields fields) ++ "\x7d"

/-- The JSON of each item of a list. -/
def writeItems : List Value → List String
  | [] => []
  | item :: rest => write item :: writeItems rest

/-- The JSON of each field of a table, behind its name. -/
def writeFields : List (String × Value) → List String
  | [] => []
  | (name, value) :: rest => (writeString name ++ ": " ++ write value) :: writeFields rest

end

end Titling.Json
