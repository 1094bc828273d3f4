import Titling.CharacterReference.Names
import Titling.Decimal.Digits
import Titling.Text.Occurrence

/-! Reading character references in markup: numbers, names, and names that no semicolon ends. -/

namespace Titling.CharacterReference

open Titling.Decimal
open Titling.Text

/-- A reference as it is written behind its ampersand. -/
inductive Reference where
  | number (code : Nat)
  | name (written : List Char)
  | overlong
deriving DecidableEq, Repr

/-- The longest run of characters that is tried as a name. -/
def longestName : Nat := 32

/-- Tells whether a character can belong to the name of a reference. -/
def isNameChar (char : Char) : Bool :=
  char ∉ ['\t', '\n', '\x0c', ' ', '<', '&', '#', ';']

/-- One if a semicolon comes next, and zero otherwise. -/
def closing : List Char → Nat
  | ';' :: _ => 1
  | _ => 0

/-- The reference that a row of digits makes; only a decimal one can be too long. -/
def Reference.ofDigits (base : Nat) (digits : List Char) : Reference :=
  if base = 10 ∧ isOverlong digits then .overlong else .number (numberOf base digits)

/-- Reads a number behind a mark of `mark` characters. -/
def readNumber (base mark : Nat) (isDigit : Char → Bool) (rest : List Char) :
    Option (Reference × Nat) :=
  -- Without digits there is no reference, and the ampersand stays.
  let digits := rest.takeWhile isDigit
  if digits.isEmpty then none
  else
    some (.ofDigits base digits, mark + digits.length + closing (rest.drop digits.length))

/-- Reads a name with the semicolon that may end it. -/
def readName (rest : List Char) : Option (Reference × Nat) :=
  -- The row is cut at the longest name, but the semicolon behind it still counts.
  let run := (rest.take longestName).takeWhile isNameChar
  let size := run.length + closing (rest.drop run.length)
  if run.isEmpty then none else some (.name (rest.take size), size)

/-- Finds a reference where a text begins with one. -/
def reference? : Matcher Reference
  | '&' :: '#' :: mark :: rest =>
    -- A letter in front of the digits announces base sixteen.
    if mark = 'x' ∨ mark = 'X' then readNumber 16 2 isHexDigit rest
    else readNumber 10 1 Char.isDigit (mark :: rest)
  | '&' :: rest => readName rest
  | _ => none

/-- What stands for a code point that is no character. -/
def replacementChar : Char := Char.ofNat 0xFFFD

/-- Code points that old pages use for the characters of another encoding. -/
def legacyCodes : List (Nat × Nat) :=
  [(0x00, 0xFFFD), (0x80, 0x20AC), (0x82, 0x201A), (0x83, 0x0192), (0x84, 0x201E),
   (0x85, 0x2026), (0x86, 0x2020), (0x87, 0x2021), (0x88, 0x02C6), (0x89, 0x2030),
   (0x8A, 0x0160), (0x8B, 0x2039), (0x8C, 0x0152), (0x8E, 0x017D), (0x91, 0x2018),
   (0x92, 0x2019), (0x93, 0x201C), (0x94, 0x201D), (0x95, 0x2022), (0x96, 0x2013),
   (0x97, 0x2014), (0x98, 0x02DC), (0x99, 0x2122), (0x9A, 0x0161), (0x9B, 0x203A),
   (0x9C, 0x0153), (0x9E, 0x017E), (0x9F, 0x0178)]

/-- Tells whether a code point is a control or a non-character, which a page cannot hold. -/
def isForbidden (code : Nat) : Bool :=
  (0x01 ≤ code && code ≤ 0x08) || code == 0x0B || (0x0E ≤ code && code ≤ 0x1F) || code == 0x7F
    || (0xFDD0 ≤ code && code ≤ 0xFDEF) || code % 0x10000 ≥ 0xFFFE

/-- The text that a numeric reference stands for. -/
def numberText (code : Nat) : List Char :=
  match legacyCodes.lookup code with
  | some replacement => [Char.ofNat replacement]
  | none =>
    -- Halves of pairs and numbers out of range are shown as unknown; other non-characters vanish.
    if (0xD800 ≤ code ∧ code ≤ 0xDFFF) ∨ 0x10FFFF < code then [replacementChar]
    else if isForbidden code then []
    else [Char.ofNat code]

/-- The text for the longest known name of two to `size` characters, and what follows that name. -/
def longestHead? (written : List Char) : (size : Nat) → Option (List Char)
  | 0 => none
  | 1 => none
  | size + 2 =>
    -- What follows the longest name that is known stays as it is.
    match named? (written.take (size + 2)) with
    | some text => some (text ++ written.drop (size + 2))
    | none => longestHead? written (size + 1)

/-- The text that a name stands for; an unknown name stays as it is written. -/
def nameText (written : List Char) : List Char :=
  -- A name with its semicolon may be known as a whole.
  match named? written with
  | some text => text
  | none => (longestHead? written (written.length - 1)).getD ('&' :: written)

/-- The text that a reference stands for; a number that is too long stands for nothing. -/
def Reference.text? : Reference → Option (List Char)
  | .number code => some (numberText code)
  | .name written => some (nameText written)
  | .overlong => none

/-- Puts the texts of references in their places. -/
def expand : List (Piece Reference) → Option (List Char)
  | [] => some []
  | .plain char :: rest => (expand rest).map (char :: ·)
  -- What a reference stands for is not read again.
  | .found reference :: rest => do
    let text ← reference.text?
    let tail ← expand rest
    return text ++ tail

/--
Puts every reference's text in its place, once: what comes out is not read again. There is no answer
if a number is too long to be read.
-/
def decode? (text : String) : Option String :=
  (expand (Piece.split reference? text.toList)).map String.ofList

-- The longest known name counts, and what comes out is not read again.
example : decode? "&notit;" = some "¬it;" := by decide +kernel
example : decode? "&amp;lt;" = some "&lt;" := by decide +kernel
example : decode? "&#x80; &#128" = some "€ €" := by decide +kernel

end Titling.CharacterReference
