import Titling.Text.Point
import Titling.Value

/-! JSON documents as they are read; their strings may hold halves of surrogate pairs. -/

namespace Titling.Json

open Titling.Text

/-- A JSON value. -/
inductive Document where
  | null
  | bool (value : Bool)
  | int (value : Int)
  | float (value : Decimal.Binary64)
  | text (points : List Point)
  | list (items : List Document)
  | table (fields : List (List Point × Document))

namespace Document

mutual

/-- A document as it stands inside a list or a table, with strings between quotes. -/
def literal : Document → String
  | .null => Value.nullText
  | .bool value => Value.boolText value
  | .int value => toString value
  | .float value => Value.floatText value
  | .text points => quotedPoints points
  | .list items => Value.listText (literalItems items)
  | .table fields => Value.tableText (literalFields fields)

/-- The items of a list, each as it stands there. -/
def literalItems : List Document → List String
  | [] => []
  | item :: rest => literal item :: literalItems rest

/-- The fields of a table, each with its quoted name. -/
def literalFields : List (List Point × Document) → List (String × String)
  | [] => []
  | (name, document) :: rest => (quotedPoints name, literal document) :: literalFields rest

end

/-- The text of a document: a string stands for itself, all else is as inside a list. -/
def display : Document → String
  | .text points => shownText points
  | document => document.literal

mutual

/-- The value that a document holds, if no string in it is broken. -/
def value? : Document → Option Value
  | .null => some .null
  | .bool value => some (.bool value)
  | .int value => some (.int value)
  | .float value => some (.float value)
  | .text points => (textOf? points).map .text
  | .list items => (valueItems? items).map .list
  | .table fields => (valueFields? fields).map .table

/-- The values of the items of a list. -/
def valueItems? : List Document → Option (List Value)
  | [] => some []
  | item :: rest => do
    let value ← value? item
    let values ← valueItems? rest
    return value :: values

/-- The values of the fields of a table. -/
def valueFields? : List (List Point × Document) → Option (List (String × Value))
  | [] => some []
  | (name, document) :: rest => do
    let name ← textOf? name
    let value ← value? document
    let fields ← valueFields? rest
    return (name, value) :: fields

end

end Document

end Titling.Json
