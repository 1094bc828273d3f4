import Titling.Decimal.Digits
import Titling.Json.Document

/-! Reading JSON, with the names of the special floats allowed. -/

namespace Titling.Json

open Titling.Decimal
open Titling.Text (Point)

/-- Tells whether a character may stand between the parts of a document. -/
def isSpace (char : Char) : Bool :=
  char == ' ' || char == '\t' || char == '\n' || char == '\r'

/-- Leaves out the space at the start of a text. -/
def skipSpace (text : List Char) : List Char :=
  text.dropWhile isSpace

/-- The code unit in four hexadecimal digits. -/
def codeUnit? (text : List Char) : Option (Nat × List Char) :=
  let digits := text.take 4
  if digits.length = 4 ∧ digits.all isHexDigit then some (numberOf 16 digits, text.drop 4)
  else none

/-- The point for a code unit, which may be half of a pair. -/
def unitPoint (code : Nat) : Point :=
  if 0xD800 ≤ code ∧ code ≤ 0xDFFF then .half code else .char (Char.ofNat code)

/-- The point that an escape by code units writes; two units may form one character. -/
def unicodeEscape? (text : List Char) : Option (Point × List Char) := do
  let (high, rest) ← codeUnit? text
  -- A second unit is read at once, since the two may be halves of a pair.
  match rest with
  | '\\' :: 'u' :: more =>
    match codeUnit? more with
    | some (low, after) =>
      -- Only a high half with a low half right behind it forms one character.
      if 0xD800 ≤ high ∧ high ≤ 0xDBFF ∧ 0xDC00 ≤ low ∧ low ≤ 0xDFFF then
        some (.char (Char.ofNat (0x10000 + (high - 0xD800) * 0x400 + (low - 0xDC00))), after)
      else some (unitPoint high, rest)
    | none => some (unitPoint high, rest)
  | _ => some (unitPoint high, rest)

/-- The character that one letter behind a backslash stands for. -/
def simpleEscape? : Char → Option Char
  | '"' => some '"'
  | '\\' => some '\\'
  | '/' => some '/'
  | 'b' => some '\x08'
  | 'f' => some '\x0c'
  | 'n' => some '\n'
  | 'r' => some '\r'
  | 't' => some '\t'
  | _ => none

/-- Reads a string behind its first quote; `fuel` bounds the number of characters. -/
def string? : (fuel : Nat) → List Char → Option (List Point × List Char)
  | 0, _ => none
  | _, [] => none
  | _, '"' :: rest => some ([], rest)
  | fuel + 1, '\\' :: 'u' :: rest => do
    -- An escape by code units may take in a second one behind it.
    let (point, rest) ← unicodeEscape? rest
    let (tail, rest) ← string? fuel rest
    return (point :: tail, rest)
  | fuel + 1, '\\' :: letter :: rest => do
    let char ← simpleEscape? letter
    let (tail, rest) ← string? fuel rest
    return (.char char :: tail, rest)
  | fuel + 1, char :: rest =>
    -- Control characters have to be escaped, and a lone backslash is an error.
    if char.toNat < 0x20 ∨ char = '\\' then none
    else do
      let (tail, rest) ← string? fuel rest
      return (.char char :: tail, rest)

/-- Reads a sign, and answers whether it is a minus. -/
def minus (text : List Char) : Bool × List Char :=
  match text with
  | '-' :: rest => (true, rest)
  | _ => (false, text)

/-- Reads the digits of a fraction behind their point; without digits there is no fraction. -/
def fraction (text : List Char) : List Char × List Char :=
  match text with
  -- A point without digits is left over, and then the document is broken there.
  | '.' :: rest =>
    let digits := rest.takeWhile Char.isDigit
    if digits.isEmpty then ([], text) else (digits, rest.drop digits.length)
  | _ => ([], text)

/-- Reads an exponent with its sign; without digits there is no exponent. -/
def exponent? (text : List Char) : Option Int × List Char :=
  match text with
  | mark :: rest =>
    if mark = 'e' ∨ mark = 'E' then
      let (negative, unsigned) := match rest with
        | '+' :: more => (false, more)
        | _ => minus rest
      -- Here zeros may come first, as they may not in front of the fraction.
      let digits := unsigned.takeWhile Char.isDigit
      let power : Int := numberOf 10 digits
      if digits.isEmpty then (none, text)
      else (some (if negative then -power else power), unsigned.drop digits.length)
    else (none, text)
  | [] => (none, text)

/-- Reads a number; one with a fraction or an exponent is a float. -/
def number? (text : List Char) : Option (Document × List Char) :=
  let (negative, unsigned) := minus text
  let digits := match unsigned with
    -- A zero in front stands alone, and what follows it is left over.
    | '0' :: _ => ['0']
    | _ => unsigned.takeWhile Char.isDigit
  if digits.isEmpty then none
  else
    let (places, rest) := fraction (unsigned.drop digits.length)
    let (power, rest) := exponent? rest
    if places.isEmpty ∧ power = none then
      let magnitude : Int := numberOf 10 digits
      if isOverlong digits then none
      else some (.int (if negative then -magnitude else magnitude), rest)
    else
      let scale := power.getD 0 - (places.length : Int)
      some (.float (.ofScaled negative (numberOf 10 (digits ++ places)) scale), rest)

/-- The words that stand for values. -/
def words : List (String × Document) :=
  [("null", .null), ("true", .bool true), ("false", .bool false), ("NaN", .float .nan),
   ("Infinity", .float (.infinite false)), ("-Infinity", .float (.infinite true))]

/-- Reads one of the words that stand for values. -/
def word? (text : List Char) : Option (Document × List Char) :=
  words.findSome? fun entry =>
    let written := entry.1.toList
    if written.isPrefixOf text then some (entry.2, text.drop written.length) else none

mutual

/-- Reads a value; `fuel` bounds the number of values, items and fields. -/
def value? : (fuel : Nat) → List Char → Option (Document × List Char)
  | 0, _ => none
  | fuel + 1, text =>
    match text with
    | '"' :: rest => (string? (rest.length + 1) rest).map fun (points, rest) =>
        (.text points, rest)
    | '[' :: rest =>
      match skipSpace rest with
      | ']' :: rest => some (.list [], rest)
      | rest => (items? fuel rest).map fun (items, rest) => (.list items, rest)
    | '\x7b' :: rest =>
      match skipSpace rest with
      | '\x7d' :: rest => some (.table [], rest)
      | rest => (fields? fuel rest).map fun (fields, rest) =>
          -- Of a repeated name the last value counts.
          (.table (Dictionary.ofEntries fields), rest)
    | _ =>
      match word? text with
      | some found => some found
      | none => number? text

/-- Reads the items of a list up to its end. -/
def items? : (fuel : Nat) → List Char → Option (List Document × List Char)
  | 0, _ => none
  | fuel + 1, text => do
    let (item, rest) ← value? fuel text
    match skipSpace rest with
    | ',' :: rest =>
      let (items, rest) ← items? fuel (skipSpace rest)
      return (item :: items, rest)
    | ']' :: rest => return ([item], rest)
    | _ => none

/-- Reads the fields of a table up to its end. -/
def fields? : (fuel : Nat) → List Char → Option (Dictionary Document (List Point) × List Char)
  | 0, _ => none
  | fuel + 1, text =>
    match text with
    | '"' :: rest => do
      let (name, rest) ← string? (rest.length + 1) rest
      match skipSpace rest with
      | ':' :: rest =>
        let (value, rest) ← value? fuel (skipSpace rest)
        let field := (name, value)
        match skipSpace rest with
        | ',' :: rest =>
          let (fields, rest) ← fields? fuel (skipSpace rest)
          return (field :: fields, rest)
        | '\x7d' :: rest => return ([field], rest)
        | _ => none
      | _ => none
    | _ => none

end

/-- Reads a document, which may have space around it and nothing else. -/
def read? (document : String) : Option Document := do
  let text := document.toList
  let (value, rest) ← value? (text.length + 1) (skipSpace text)
  if (skipSpace rest).isEmpty then return value else none

end Titling.Json
