import Titling.Text.Point
import Titling.Text.PrintableRanges

/-! Texts written between quotes, with every character visible. -/

namespace Titling.Text

/-- Tells whether a character is shown as itself; of the spaces only the plain one is. -/
def isPrintable (char : Char) : Bool :=
  -- Of the first 128 characters the controls are not shown.
  if char.toNat < 0x80 then 0x20 ≤ char.toNat && char.toNat < 0x7F
  else inRanges printableRanges char

/-- The sixteen digits in lower case. -/
def hexDigit (value : Nat) : Char :=
  if value < 10 then Char.ofNat (48 + value) else Char.ofNat (87 + value)

/-- A number in exactly `width` hexadecimal digits; higher digits are dropped. -/
def hexDigits : Nat → Nat → List Char
  | 0, _ => []
  | width + 1, value => hexDigits width (value / 16) ++ [hexDigit (value % 16)]

/-- A code point behind the shortest of the three marks that hold it. -/
def codeEscape (char : Char) : List Char :=
  if char.toNat < 0x100 then '\\' :: 'x' :: hexDigits 2 char.toNat
  else if char.toNat < 0x10000 then '\\' :: 'u' :: hexDigits 4 char.toNat
  else '\\' :: 'U' :: hexDigits 8 char.toNat

/-- One character as it stands between quotes. -/
def quotedChar (quote char : Char) : List Char :=
  -- The other quote stands as it is, since it does not end the text.
  if char = quote ∨ char = '\\' then ['\\', char]
  else if char = '\n' then ['\\', 'n']
  else if char = '\r' then ['\\', 'r']
  else if char = '\t' then ['\\', 't']
  else if isPrintable char then [char]
  else codeEscape char

/-- One point as it stands between quotes; a half is written by its number. -/
def quotedPoint (quote : Char) : Point → List Char
  | .char char => quotedChar quote char
  | .half unit => '\\' :: 'u' :: hexDigits 4 unit

/-- The quote to use: the double one for a text with single quotes and no double ones. -/
def quoteFor (text : List Char) : Char :=
  if text.contains '\'' && !text.contains '"' then '"' else '\''

/-- Points between quotes, as they are shown in messages. -/
def quotedPoints (points : List Point) : String :=
  let quote := quoteFor (points.filterMap Point.char?)
  String.ofList (quote :: points.flatMap (quotedPoint quote) ++ [quote])

/-- A text between quotes, as it is shown in messages. -/
def quoted (text : String) : String :=
  quotedPoints (pointsOf text)

-- A text with both quotes keeps the single ones around it.
example : quoted "it's" = "\"it's\"" := by decide +kernel
example : quoted "\"it's\"" = "'\"it\\'s\"'" := by decide +kernel

/-- Writes what is not ASCII in a quoted text by its code points. -/
def asciiOnly (text : String) : String :=
  -- A text that is quoted has its other escapes already.
  String.ofList (text.toList.flatMap fun char =>
    if char.toNat < 0x80 then [char] else codeEscape char)

end Titling.Text
