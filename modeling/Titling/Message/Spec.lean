import Titling.Text.DecimalDigit

/-! Format specifications: how a value is fitted into a message. -/

namespace Titling.Message

open Titling.Text

/-- Where the filling goes if a value is narrower than its field. -/
inductive Align where
  | left
  | right
  | center
  | afterSign
deriving DecidableEq, Repr

/-- What stands in front of a number that is not negative. -/
inductive Sign where
  | nothing
  | plus
  | space
deriving DecidableEq, Repr

/-- The parts of a format specification. -/
structure Spec where
  fill : Char := ' '
  align : Align
  sign : Option Sign := none
  dropsNegativeZero : Bool := false
  alternate : Bool := false
  width : Option Nat := none
  separator : Option Char := none
  precision : Option Nat := none
  type : Option Char
deriving DecidableEq, Repr

namespace Spec

/-- The greatest count that a specification or an index may give. -/
def maxCount : Nat := 0x7FFFFFFFFFFFFFFF

/-- The greatest width that there is room for. -/
def maxWidth : Nat := 0x7FFFFFFF

/-- The alignment that a character asks for. -/
def alignOf? : Char → Option Align
  | '<' => some .left
  | '>' => some .right
  | '^' => some .center
  | '=' => some .afterSign
  | _ => none

/-- The sign that a character asks for. -/
def signOf? : Char → Option Sign
  | '-' => some .nothing
  | '+' => some .plus
  | ' ' => some .space
  | _ => none

/-- Reads a count, if there is one; `none` stands for one that is too large. -/
def readCount (text : List Char) : Option (Option Nat × List Char) :=
  -- A count may be written in the digits of any script.
  let digits := text.takeWhile isDecimalDigit
  let count := decimalNumber digits
  if digits.isEmpty then some (none, text)
  else if maxCount < count then none
  else some (some count, text.drop digits.length)

/-- Reads the alignment, and the filling in front of it. -/
def readAlign (spec : Spec) (text : List Char) : Spec × Bool × Bool × List Char :=
  -- The two flags tell whether an alignment and a filling are given.
  match text with
  | first :: second :: rest =>
    -- A second character that aligns makes the first one the filling, even if that aligns, too.
    match alignOf? second, alignOf? first with
    | some align, _ => ({ spec with fill := first, align }, true, true, rest)
    | none, some align => ({ spec with align }, true, false, second :: rest)
    | none, none => (spec, false, false, text)
  | [first] =>
    match alignOf? first with
    | some align => ({ spec with align }, true, false, [])
    | none => (spec, false, false, text)
  | [] => (spec, false, false, text)

/-- Reads the sign. -/
def readSign (spec : Spec) (text : List Char) : Spec × List Char :=
  match text with
  | first :: rest =>
    match signOf? first with
    | some sign => ({ spec with sign := some sign }, rest)
    | none => (spec, text)
  | [] => (spec, text)

/-- Reads the marks for negative zeros and for the alternate form. -/
def readMarks (spec : Spec) (text : List Char) : Spec × List Char :=
  -- Both marks may be missing, but they stand in this order.
  let (spec, text) := match text with
    | 'z' :: rest => ({ spec with dropsNegativeZero := true }, rest)
    | _ => (spec, text)
  match text with
  | '#' :: rest => ({ spec with alternate := true }, rest)
  | _ => (spec, text)

/-- Reads a leading zero, which fills with zeros behind the sign if nothing else is asked for. -/
def readZero (spec : Spec) (aligned filled : Bool) (text : List Char) : Spec × List Char :=
  match filled, text with
  | false, '0' :: rest =>
    -- Texts are aligned to the left and stay so.
    let align := if !aligned && spec.align = .right then .afterSign else spec.align
    ({ spec with fill := '0', align }, rest)
  | _, _ => (spec, text)

/-- Reads the separator of digit groups; two of them are refused. -/
def readSeparator (spec : Spec) (text : List Char) : Option (Spec × List Char) :=
  -- Both orders are refused, while the same mark twice is only left over.
  match text with
  | ',' :: '_' :: _ => none
  | '_' :: ',' :: _ => none
  | ',' :: rest => some ({ spec with separator := some ',' }, rest)
  | '_' :: rest => some ({ spec with separator := some '_' }, rest)
  | _ => some (spec, text)

/-- Reads the precision behind its point. -/
def readPrecision (spec : Spec) (text : List Char) : Option (Spec × List Char) :=
  match text with
  | '.' :: rest =>
    -- A point asks for a precision, so there have to be digits behind it.
    match readCount rest with
    | some (some precision, rest) => some ({ spec with precision := some precision }, rest)
    | _ => none
  | _ => some (spec, text)

/-- Reads the type, which has to be the last character. -/
def readType (spec : Spec) (text : List Char) : Option Spec :=
  match text with
  | [] => some spec
  | [type] => some { spec with type := some type }
  | _ => none

/-- Tells whether digit groups are allowed: by fours in binary bases, and only by underscores. -/
def allowsSeparator (spec : Spec) : Bool :=
  match spec.separator, spec.type with
  | none, _ => true
  | some _, none => true
  -- Without a type the value decides how it is written, and digits may be grouped.
  | some separator, some type =>
    ['d', 'e', 'E', 'f', 'F', 'g', 'G', '%', '\x00'].contains type
      || (separator == '_' && ['b', 'o', 'x', 'X'].contains type)

/-- Reads a specification for a kind of value with an alignment and a type of its own. -/
def read? (align : Align) (type : Option Char) (text : List Char) : Option Spec := do
  -- Each part is left out or stands in its place, so they are read in their order.
  let (spec, aligned, filled, text) := readAlign { align, type } text
  let (spec, text) := readSign spec text
  let (spec, text) := readMarks spec text
  let (spec, text) := readZero spec aligned filled text
  let (width, text) ← readCount text
  let (spec, text) ← readSeparator { spec with width } text
  let (spec, text) ← readPrecision spec text
  let spec ← readType spec text
  if spec.allowsSeparator then return spec else none

/-- Tells whether a field is too wide to be filled. -/
def isTooWide (spec : Spec) : Bool :=
  maxWidth < spec.width.getD 0

/-- The fillings to the left, behind the sign and to the right of a value of some length. -/
def padding (spec : Spec) (length : Nat) : List Char × List Char × List Char :=
  -- Where the value is as wide as its field or wider, nothing is missing.
  let missing := spec.width.getD 0 - length
  let filling (count : Nat) := List.replicate count spec.fill
  match spec.align with
  | .left => ([], [], filling missing)
  | .right => (filling missing, [], [])
  | .center => (filling (missing / 2), [], filling (missing - missing / 2))
  | .afterSign => ([], filling missing, [])

end Spec

end Titling.Message
