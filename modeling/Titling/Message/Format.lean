import Titling.Message.Number
import Titling.Message.Subject.Attribute
import Titling.Message.Template

/-! Filling a template with values. -/

namespace Titling.Message

open Titling.Text

/-- The values that a message is sent with, under their names. -/
abbrev Arguments := Dictionary Value

/-- What stands under a name in a subject: a field of a table, or a member in the view of a kind. -/
def Subject.key (name : String) : Subject → Except Fault Subject
  -- Fields of tables are looked up, while all else that has keys answers by its kind.
  | .value (.table fields) =>
    match Dictionary.get? name fields with
    | some held => .ok (.value held)
    | none => .error .missingName
  | .view sort =>
    match sort.own? name with
    | some trait => .ok (entry sort name trait)
    | none => .error .missingName
  | .kind sort => if sort.isGeneric then .ok (.alias sort (.text name)) else .error .unsupported
  | _ => .error .unsupported

/-- What stands at a place in a row of things. -/
def itemAt {α : Type} (items : List α) (place : Nat) : Except Fault α :=
  match items[place]? with
  | some item => .ok item
  | none => .error .outOfRange

/-- What stands at a place in a subject; nothing in a table stands under a number. -/
def Subject.place (place : Nat) : Subject → Except Fault Subject
  -- A place counts the characters of a text and the items of a list.
  | .value (.list items) => (itemAt items place).map .value
  | .value (.text chars) =>
    (itemAt chars.toList place).map fun char => .text (String.ofList [char])
  | .value (.table _) | .view _ => .error .missingName
  | .row items => (itemAt items place).map .value
  | .kinds sorts => (itemAt sorts place).map .kind
  | .kind sort => if sort.isGeneric then .ok (.alias sort (.int place)) else .error .unsupported
  | _ => .error .unsupported

/-- Goes into a subject by one access. -/
def Access.apply (subject : Subject) : Access → Except Fault Subject
  | .attribute name =>
    match subject.attribute? name with
    | some member => .ok member
    | none => .error .noAttribute
  | .key name => subject.key name
  | .index place => subject.place place
  | .broken => .error .malformed

/-- The value that a field's name stands for; no value has a number or nothing as its name. -/
def Field.argument (arguments : Arguments) (field : Field) : Except Fault Subject :=
  match Designator.ofName field.base with
  | .name name =>
    match arguments.get? name with
    | some value => .ok (.value value)
    | none => .error .missingName
  -- The empty name counts as the next number.
  | .place _ | .nothing => .error .outOfRange
  | .overflow => .error .malformed

/-- The subject that a field leads to. -/
def Field.subject (arguments : Arguments) (field : Field) : Except Fault Subject := do
  -- The accesses are made from left to right, each one on what the one before it led to.
  field.accesses.foldlM Access.apply (← field.argument arguments)

/-- The plain text of a subject, or the fault that there is none. -/
def Subject.shown (subject : Subject) : Except Fault String :=
  subject.display.mapError .ofTextError

/-- A subject as it stands inside a list, or the fault that it has no text there. -/
def Subject.described (subject : Subject) : Except Fault String :=
  subject.literal.mapError .ofTextError

/-- Turns a subject into a text in the way that a conversion names. -/
def convert (subject : Subject) : Option Char → Except Fault Subject
  -- The character with the code zero names no conversion.
  | none | some '\x00' => .ok subject
  | some 's' => subject.shown.map .text
  | some 'r' => subject.described.map .text
  | some 'a' => subject.described.map fun text => .text (asciiOnly text)
  | some _ => .error .malformed

/-- A specification, or the fault of its text. -/
def readSpecification (align : Align) (type : Option Char) (text : List Char) :
    Except Fault Spec :=
  match Spec.read? align type text with
  | some spec => .ok spec
  | none => .error .malformed

/-- A subject laid out by the text of a specification; an empty one asks for the plain text. -/
def lay (subject : Subject) (spec : List Char) : Except Fault (List Char) :=
  if spec.isEmpty then subject.shown.map String.toList
  else match subject with
    | .value (.text text) => do layText (← readSpecification .left (some 's') spec) text.toList
    | .value (.int value) => do layInt (← readSpecification .right (some 'd') spec) value
    -- A truth value is laid out as a number, unless its plain text is asked for.
    | .value (.bool value) => do
      layInt (← readSpecification .right (some 'd') spec) (if value then 1 else 0)
    | .value (.float value) => do layFloat (← readSpecification .right none spec) value
    | _ => .error .unsupported

/-- Fills a field; a specification with braces is a template itself, which `expand` fills. -/
def fillField (expand : List Char → Except Fault (List Char)) (arguments : Arguments)
    (field : Field) : Except Fault (List Char) := do
  let subject ← field.subject arguments
  let subject ← convert subject field.conversion
  -- Braces inside a specification are filled before it is read.
  let spec ← if field.spec.contains '\x7b' then expand field.spec else .ok field.spec
  lay subject spec

/-- Fills the pieces of a template from left to right; the first fault ends it. -/
def fillPieces (fill : Field → Except Fault (List Char)) : List (Piece Item) →
    Except Fault (List Char)
  | [] => .ok []
  | .plain char :: rest => (fillPieces fill rest).map (char :: ·)
  | .found (.brace char) :: rest => (fillPieces fill rest).map (char :: ·)
  | .found .broken :: _ => .error .malformed
  | .found (.field field) :: rest => do
    let shown ← fill field
    let tail ← fillPieces fill rest
    return shown ++ tail

/-- Fills a template that may have templates inside it down to a depth. -/
def fillTemplate (arguments : Arguments) : (depth : Nat) → List Char → Except Fault (List Char)
  | 0, _ => .error .malformed
  | depth + 1, template =>
    fillPieces (fillField (fillTemplate arguments depth) arguments) (pieces template)

/-- The message of a template; specifications may hold fields, which hold no further ones. -/
def format (template : String) (arguments : Arguments) : Except Fault String :=
  -- One level is the template itself, and the other its specifications.
  (fillTemplate arguments 2 template.toList).map String.ofList

/-- Tells whether a fault leaves a note in the place of the message, and otherwise is passed on. -/
def Fault.isNoted : Fault → Bool
  | .malformed | .missingName | .outOfRange | .overlongInteger => true
  | .noAttribute | .unsupported | .tooLarge | .tooWide => false

end Titling.Message
