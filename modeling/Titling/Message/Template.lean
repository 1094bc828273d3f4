import Titling.Message.Spec
import Titling.Text.Occurrence

/-! Message templates: literal text with doubled braces, and fields between single ones. -/

namespace Titling.Message

open Titling.Text

/-- A field: the name with its accesses, a conversion, and the text of a format specification. -/
structure Field where
  name : List Char
  conversion : Option Char := none
  spec : List Char := []
deriving DecidableEq, Repr

/-- What stands in a template beside plain characters. -/
inductive Item where
  | brace (char : Char)
  | field (field : Field)
  | broken
deriving DecidableEq, Repr

/-- Reads a name up to the mark that ends it; between square brackets no mark counts. -/
def readName : (bracketed : Bool) → List Char → Option (List Char × List Char)
  | _, [] => none
  -- A bracket that is open takes in all characters up to the one that closes it.
  | true, char :: rest =>
    (readName (char ≠ ']') rest).map fun (name, rest) => (char :: name, rest)
  | false, char :: rest =>
    if char = '\x7d' ∨ char = ':' ∨ char = '!' then some ([], char :: rest)
    -- A brace inside a name is no beginning of a field.
    else if char = '\x7b' then none
    else (readName (char = '[') rest).map fun (name, rest) => (char :: name, rest)

/-- Reads a specification up to its closing brace, with `nested` braces open inside it. -/
def readSpec : (nested : Nat) → List Char → Option (List Char × List Char)
  | _, [] => none
  | 0, '\x7d' :: rest => some ([], rest)
  | nested + 1, '\x7d' :: rest =>
    (readSpec nested rest).map fun (spec, rest) => ('\x7d' :: spec, rest)
  | nested, '\x7b' :: rest =>
    (readSpec (nested + 1) rest).map fun (spec, rest) => ('\x7b' :: spec, rest)
  | nested, char :: rest =>
    (readSpec nested rest).map fun (spec, rest) => (char :: spec, rest)

/-- Reads a field behind its opening brace. -/
def readField (text : List Char) : Option (Field × List Char) := do
  let (name, rest) ← readName false text
  -- Behind the name the field ends, or a conversion or a specification comes first.
  match rest with
  | '\x7d' :: rest => return ({ name }, rest)
  | '!' :: conversion :: '\x7d' :: rest =>
    return ({ name, conversion := some conversion }, rest)
  | '!' :: conversion :: ':' :: rest =>
    let (spec, rest) ← readSpec 0 rest
    return ({ name, conversion := some conversion, spec }, rest)
  | ':' :: rest =>
    let (spec, rest) ← readSpec 0 rest
    return ({ name, spec }, rest)
  | _ => none

/-- Finds a doubled brace or a field; a brace that is neither is an error. -/
def item? : Matcher Item
  -- Doubled braces are looked for first, so a field cannot begin with a brace.
  | '\x7b' :: '\x7b' :: _ => some (.brace '\x7b', 1)
  | '\x7d' :: '\x7d' :: _ => some (.brace '\x7d', 1)
  | '\x7d' :: _ => some (.broken, 0)
  | '\x7b' :: rest =>
    match readField rest with
    | some (field, after) => some (.field field, rest.length - after.length)
    | none => some (.broken, 0)
  | _ => none

/-- The pieces of a template. -/
def pieces (template : List Char) : List (Piece Item) :=
  Piece.split item? template

/-- How a field goes into the value that its name stands for. -/
inductive Access where
  | attribute (name : String)
  | key (name : String)
  | index (place : Nat)
  | broken
deriving DecidableEq, Repr

/-- A name in a field: a place if it is made of digits, nothing at all, or a text. -/
inductive Designator where
  | place (place : Nat)
  | name (name : String)
  | nothing
  | overflow
deriving DecidableEq, Repr

/-- Reads a name in a field; one that begins with a place beyond every list is an error. -/
def Designator.ofName (name : List Char) : Designator :=
  match Spec.readCount name with
  | none => .overflow
  | some (some count, []) => .place count
  -- Digits in front of other characters are part of a name like any other.
  | some _ => if name.isEmpty then .nothing else .name (String.ofList name)

/-- The access that a name between square brackets makes. -/
def Access.ofKey (key : List Char) : Access :=
  match Designator.ofName key with
  | .place place => .index place
  | .name name => .key name
  | .nothing | .overflow => .broken

/-- Tells whether a character begins an access. -/
def beginsAccess (char : Char) : Bool :=
  char == '.' || char == '['

/-- Finds an access behind a point or between square brackets. -/
def access? : Matcher Access
  -- An attribute's name goes on to the next access; between brackets anything may stand.
  | '.' :: rest =>
    let name := rest.takeWhile fun char => !beginsAccess char
    some (if name.isEmpty then .broken else .attribute (String.ofList name), name.length)
  | '[' :: rest =>
    let key := rest.takeWhile (· ≠ ']')
    match rest.drop key.length with
    | ']' :: _ => some (Access.ofKey key, key.length + 1)
    | _ => some (.broken, rest.length)
  | _ => none

/-- The name of a field without its accesses. -/
def Field.base (field : Field) : List Char :=
  field.name.takeWhile fun char => !beginsAccess char

/-- The accesses of a field in order; characters between them are an error. -/
def Field.accesses (field : Field) : List Access :=
  (Piece.split access? (field.name.drop field.base.length)).map fun
    | .plain _ => .broken
    | .found access => access

end Titling.Message
