import Titling.Value

/-! TOML's keys, strings, numbers, dates and times. -/

namespace Titling.Toml

open Titling.Decimal (isHexDigit numberOf isOverlong)

/-- Why a document cannot be read: it breaks the rules, or an integer in it is too long. -/
inductive Fault where
  | malformed
  | overlong
deriving DecidableEq, Repr

/-- What was read; nothing at all means that the rules are broken. -/
def required {α : Type} : Option α → Except Fault α
  | some found => .ok found
  | none => .error .malformed

/-- Tells whether a character is white space within a line. -/
def isSpace (char : Char) : Bool :=
  char == ' ' || char == '\t'

/-- Tells whether a character is white space or the end of a line. -/
def isSpaceOrNewline (char : Char) : Bool :=
  isSpace char || char == '\n'

/-- Leaves out the white space at the start of a text. -/
def skipSpace (text : List Char) : List Char :=
  text.dropWhile isSpace

/-- Tells whether a character may stand in a string or a comment; a tab is the only control. -/
def isLegal (multiline : Bool) (char : Char) : Bool :=
  -- Codes below 32 and the code 127 are the controls.
  char == '\t' || (multiline && char == '\n') || !(char.toNat < 32 || char.toNat == 127)

/-- Tells whether a character may stand in a key without quotes. -/
def isBareKeyChar (char : Char) : Bool :=
  char.isAlphanum || char == '-' || char == '_'

/-! ### Strings -/

/-- Reads a literal string of one line behind its quote. -/
def literalString? (text : List Char) : Option (List Char × List Char) :=
  -- There are no escapes in it, so it goes on to the next quote, whatever that stands behind.
  let body := text.takeWhile (· ≠ '\'')
  match text.drop body.length with
  | '\'' :: rest => if body.all (isLegal false) then some (body, rest) else none
  | _ => none

/-- Reads up to three single quotes. -/
def toTripleQuote? : List Char → Option (List Char × List Char)
  -- The first three quotes end it; quotes right behind them are looked at afterwards.
  | '\'' :: '\'' :: '\'' :: rest => some ([], rest)
  | char :: rest => (toTripleQuote? rest).map fun (body, rest) => (char :: body, rest)
  | [] => none

/-- Reads a code point in hexadecimal digits; halves of pairs are no characters. -/
def codePoint? (width : Nat) (text : List Char) : Option (Char × List Char) :=
  let digits := text.take width
  -- Fewer digits than that are an error, and further ones are part of the text.
  let code := numberOf 16 digits
  if digits.length = width ∧ digits.all isHexDigit ∧ code.isValidChar then
    some (Char.ofNat code, text.drop width)
  else none

/-- The character that one letter behind a backslash stands for. -/
def simpleEscape? : Char → Option Char
  | 'b' => some '\x08'
  | 't' => some '\t'
  | 'n' => some '\n'
  | 'f' => some '\x0c'
  | 'r' => some '\r'
  | '"' => some '"'
  | '\\' => some '\\'
  | _ => none

/-- Leaves out the end of a line behind a backslash, and the white space of the lines after it. -/
def continuation? (text : List Char) : Option (List Char) :=
  -- The line may end in white space, and then the next line with text in it goes on.
  match skipSpace text with
  | '\n' :: rest => some (rest.dropWhile isSpaceOrNewline)
  | _ => none

/-- Reads an escape behind its backslash; the end of a line gives no character. -/
def escape? (multiline : Bool) (text : List Char) : Option (List Char × List Char) :=
  match text with
  | 'u' :: rest => (codePoint? 4 rest).map fun (char, rest) => ([char], rest)
  | 'U' :: rest => (codePoint? 8 rest).map fun (char, rest) => ([char], rest)
  | letter :: rest =>
    -- Only white space may stand between the backslash and the end of its line.
    if multiline ∧ isSpaceOrNewline letter then
      (continuation? text).map fun rest => ([], rest)
    else (simpleEscape? letter).map fun char => ([char], rest)
  | [] => none

/-- Reads a basic string up to its end; `fuel` bounds the number of characters. -/
def basicString? (multiline : Bool) : (fuel : Nat) → List Char → Option (List Char × List Char)
  | 0, _ => none
  -- A string that is still open at the end of the text is broken.
  | _, [] => none
  | fuel + 1, '"' :: rest =>
    match multiline, rest with
    | false, _ => some ([], rest)
    -- Fewer than three quotes in a row are part of a string of several lines.
    | true, '"' :: '"' :: rest => some ([], rest)
    | true, _ => (basicString? multiline fuel rest).map fun (body, rest) => ('"' :: body, rest)
  | fuel + 1, '\\' :: rest => do
    let (chars, rest) ← escape? multiline rest
    let (body, rest) ← basicString? multiline fuel rest
    return (chars ++ body, rest)
  | fuel + 1, char :: rest =>
    if isLegal multiline char then
      (basicString? multiline fuel rest).map fun (body, rest) => (char :: body, rest)
    else none

/-- Reads a basic string behind its quotes. -/
def basic? (multiline : Bool) (text : List Char) : Option (List Char × List Char) :=
  basicString? multiline (text.length + 1) text

/-- Adds the one or two quotes that may stand right before the end of a string of several lines. -/
def lastQuotes (quote : Char) (body rest : List Char) : List Char × List Char :=
  -- Three quotes have ended the string, and up to two more belong to its body.
  match rest with
  | first :: second :: more =>
    if first = quote then
      if second = quote then (body ++ [quote, quote], more) else (body ++ [quote], second :: more)
    else (body, rest)
  | [first] => if first = quote then (body ++ [quote], []) else (body, rest)
  | [] => (body, [])

/-- Leaves out a line end right behind the opening quotes. -/
def skipFirstNewline : List Char → List Char
  | '\n' :: rest => rest
  | text => text

/-- Reads any string. -/
def string? (text : List Char) : Option (List Char × List Char) :=
  match text with
  -- Three quotes are looked for first, since an empty string is written with two.
  | '"' :: '"' :: '"' :: rest =>
    (basic? true (skipFirstNewline rest)).map fun (body, rest) => lastQuotes '"' body rest
  | '"' :: rest => basic? false rest
  | '\'' :: '\'' :: '\'' :: rest => do
    let (body, rest) ← toTripleQuote? (skipFirstNewline rest)
    if body.all (isLegal true) then return lastQuotes '\'' body rest else none
  | '\'' :: rest => literalString? rest
  | _ => none

/-! ### Keys -/

/-- The names of a key with points in it. -/
abbrev Key := List String

/-- Reads one name of a key; a quoted one keeps to its line. -/
def keyPart? (text : List Char) : Option (String × List Char) :=
  match text with
  | '"' :: rest => (basic? false rest).map fun (name, rest) => (String.ofList name, rest)
  | '\'' :: rest => (literalString? rest).map fun (name, rest) => (String.ofList name, rest)
  | _ =>
    -- A bare name goes on as far as its characters do, and there is at least one of them.
    let name := text.takeWhile isBareKeyChar
    if name.isEmpty then none else some (String.ofList name, text.drop name.length)

/-- Reads the names of a key and the white space behind them; `fuel` bounds their number. -/
def keyParts? : (fuel : Nat) → List Char → Option (Key × List Char)
  | 0, _ => none
  | fuel + 1, text => do
    let (name, rest) ← keyPart? text
    -- White space may stand on both sides of a point.
    match skipSpace rest with
    | '.' :: rest =>
      let (names, rest) ← keyParts? fuel (skipSpace rest)
      return (name :: names, rest)
    | rest => return ([name], rest)

/-- Reads a key. -/
def key? (text : List Char) : Option (Key × List Char) :=
  keyParts? (text.length + 1) text

/-! ### Dates and times -/

/-- Reads a number of exactly `width` digits. -/
def digits? (width : Nat) (text : List Char) : Option (Nat × List Char) :=
  let digits := text.take width
  if digits.length = width ∧ digits.all Char.isDigit then
    some (numberOf 10 digits, text.drop width)
  else none

/-- Reads a mark. -/
def mark? (mark : Char) : List Char → Option (List Char)
  | first :: rest => if first = mark then some rest else none
  | [] => none

/-- Reads a date as it is written; whether its month has so many days is asked later. -/
def day? (text : List Char) : Option (Day × List Char) := do
  -- Each number has a fixed width, so small ones are written with zeros in front.
  let (year, text) ← digits? 4 text
  let text ← mark? '-' text
  let (month, text) ← digits? 2 text
  let text ← mark? '-' text
  let (day, text) ← digits? 2 text
  if 1 ≤ month ∧ month ≤ 12 ∧ 1 ≤ day ∧ day ≤ 31 then return (⟨year, month, day⟩, text)
  else none

/-- Reads hours and minutes. -/
def hourMinute? (text : List Char) : Option (Nat × Nat × List Char) := do
  let (hour, text) ← digits? 2 text
  let text ← mark? ':' text
  let (minute, text) ← digits? 2 text
  if hour ≤ 23 ∧ minute ≤ 59 then return (hour, minute, text) else none

/-- Reads a fraction of a second, of which six digits count; without digits there is none. -/
def microseconds (text : List Char) : Nat × List Char :=
  -- A point without digits behind it is left over, and the document is broken there.
  match text with
  | '.' :: rest =>
    let digits := rest.takeWhile Char.isDigit
    let kept := digits.take 6
    if digits.isEmpty then (0, text)
    -- Digits beyond the sixth are read and dropped.
    else (numberOf 10 kept * Decimal.tenTo (6 - kept.length), rest.drop digits.length)
  | _ => (0, text)

/-- Reads a time of day. -/
def clock? (text : List Char) : Option (Clock × List Char) := do
  let (hour, minute, text) ← hourMinute? text
  let text ← mark? ':' text
  let (second, text) ← digits? 2 text
  if second ≤ 59 then
    let (microsecond, text) := microseconds text
    return (⟨hour, minute, second, microsecond⟩, text)
  else none

/-- Reads an offset from universal time, if one is given. -/
def offset (text : List Char) : Option Int × List Char :=
  match text with
  -- An offset that is not complete is left over as well.
  | sign :: rest =>
    if sign = 'Z' ∨ sign = 'z' then (some 0, rest)
    else if sign = '+' ∨ sign = '-' then
      match hourMinute? rest with
      | some (hour, minute, rest) =>
        let minutes : Int := hour * 60 + minute
        (some (if sign = '-' then -minutes else minutes), rest)
      | none => (none, text)
    else (none, text)
  | [] => (none, text)

/-- Reads the time that may follow a date, with its offset. -/
def timeOfDay? (text : List Char) : Option (Clock × Option Int × List Char) :=
  match text with
  | mark :: rest =>
    -- A space counts only if a time follows, so that a date may end in white space.
    if mark = 'T' ∨ mark = 't' ∨ mark = ' ' then
      (clock? rest).map fun (clock, rest) =>
        let (offset, rest) := offset rest
        (clock, offset, rest)
    else none
  | [] => none

/-- Reads a date, and the time behind it if there is one. -/
def dated? (text : List Char) : Option (Moment × List Char) :=
  (day? text).map fun (day, rest) =>
    match timeOfDay? rest with
    | some (clock, offset, rest) => (.instant day clock offset, rest)
    | none => (.date day, rest)

/-- Tells whether the date of a moment exists. -/
def momentExists : Moment → Bool
  | .date day => day.isValid
  | .instant day _ _ => day.isValid
  | .time _ => true

/-! ### Numbers -/

/-- Reads further digits of a number; a single underscore may stand between two of them. -/
def moreDigits (isDigit : Char → Bool) : List Char → List Char × List Char
  -- An underscore that no digit follows is left over.
  | '_' :: digit :: rest =>
    if isDigit digit then
      let (digits, rest) := moreDigits isDigit rest
      (digit :: digits, rest)
    else ([], '_' :: digit :: rest)
  | digit :: rest =>
    if isDigit digit then
      let (digits, rest) := moreDigits isDigit rest
      (digit :: digits, rest)
    else ([], digit :: rest)
  | [] => ([], [])

/-- Reads a run of digits that begins with a digit. -/
def digitRun? (isDigit : Char → Bool) (text : List Char) : Option (List Char × List Char) :=
  match text with
  | first :: rest =>
    if isDigit first then
      let (digits, rest) := moreDigits isDigit rest
      some (first :: digits, rest)
    else none
  | [] => none

/-- Reads an integer in another base behind its mark. -/
def basedInteger? (text : List Char) : Option (Value × List Char) :=
  -- Leading zeros are allowed here, while a sign is not.
  let read (base : Nat) (isDigit : Char → Bool) (rest : List Char) :=
    (digitRun? isDigit rest).map fun (digits, rest) => (Value.int (numberOf base digits), rest)
  match text with
  | '0' :: 'x' :: rest => read 16 isHexDigit rest
  | '0' :: 'o' :: rest => read 8 (fun char => '0' ≤ char && char ≤ '7') rest
  | '0' :: 'b' :: rest => read 2 (fun char => char == '0' || char == '1') rest
  | _ => none

/-- Reads a sign, and answers whether it is a minus. -/
def sign (text : List Char) : Bool × List Char :=
  match text with
  | '-' :: rest => (true, rest)
  | '+' :: rest => (false, rest)
  | _ => (false, text)

/-- Reads the digits before the point; a zero stands alone. -/
def wholeDigits? (text : List Char) : Option (List Char × List Char) :=
  match text with
  -- A digit behind it is left over, and the document is broken there.
  | '0' :: rest => some (['0'], rest)
  | _ => digitRun? Char.isDigit text

/-- Reads the digits behind a point, if there are any. -/
def fraction (text : List Char) : List Char × List Char :=
  match text with
  | '.' :: rest => (digitRun? Char.isDigit rest).getD ([], text)
  | _ => ([], text)

/-- Reads an exponent, if there is one. -/
def exponent? (text : List Char) : Option Int × List Char :=
  match text with
  -- A letter that no digits follow is left over.
  | mark :: rest =>
    let (negative, unsigned) := sign rest
    match (if mark = 'e' ∨ mark = 'E' then digitRun? Char.isDigit unsigned else none) with
    | some (digits, rest) =>
      let power : Int := numberOf 10 digits
      (some (if negative then -power else power), rest)
    | none => (none, text)
  | [] => (none, text)

/-- The integer that decimal digits write, unless there are too many of them. -/
def integerOf (negative : Bool) (digits : List Char) : Except Fault Value :=
  let magnitude : Int := numberOf 10 digits
  if isOverlong digits then .error .overlong
  else .ok (.int (if negative then -magnitude else magnitude))

/-- Reads a decimal number; one with a fraction or an exponent is a float. -/
def decimal? (text : List Char) : Option (Except Fault Value × List Char) := do
  let (negative, unsigned) := sign text
  let (digits, rest) ← wholeDigits? unsigned
  let (places, rest) := fraction rest
  let (power, rest) := exponent? rest
  if places.isEmpty ∧ power = none then return (integerOf negative digits, rest)
  else
    -- The point is taken out of the digits and goes into the power of ten.
    let scale := power.getD 0 - (places.length : Int)
    return (.ok (.float (.ofScaled negative (numberOf 10 (digits ++ places)) scale)), rest)

/-- Reads one of the floats that have names. -/
def namedFloat? (text : List Char) : Option (Value × List Char) :=
  let (negative, unsigned) := sign text
  match unsigned with
  | 'i' :: 'n' :: 'f' :: rest => some (.float (.infinite negative), rest)
  | 'n' :: 'a' :: 'n' :: rest => some (.float .nan, rest)
  | _ => none

/-- Reads a truth value. -/
def bool? : List Char → Option (Value × List Char)
  | 't' :: 'r' :: 'u' :: 'e' :: rest => some (.bool true, rest)
  | 'f' :: 'a' :: 'l' :: 's' :: 'e' :: rest => some (.bool false, rest)
  | _ => none

/-- Reads a number in any of its forms. -/
def number (text : List Char) : Except Fault (Value × List Char) :=
  match basedInteger? text, decimal? text with
  | some found, _ => .ok found
  | none, some (value, rest) => value.map fun value => (value, rest)
  | none, none => required (namedFloat? text)

/-- Reads a value that holds no others; what looks like a date is one or an error. -/
def scalar (text : List Char) : Except Fault (Value × List Char) :=
  match string? text, text with
  | some (chars, rest), _ => .ok (.text (String.ofList chars), rest)
  -- What begins with a quote and is no text cannot be anything else.
  | none, '"' :: _ => .error .malformed
  | none, '\'' :: _ => .error .malformed
  | none, _ =>
    match bool? text, dated? text with
    | some found, _ => .ok found
    | none, some (moment, rest) =>
      if momentExists moment then .ok (.moment moment, rest) else .error .malformed
    | none, none =>
      match clock? text with
      | some (clock, rest) => .ok (.moment (.time clock), rest)
      | none => number text

end Titling.Toml
