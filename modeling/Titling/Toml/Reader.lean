import Titling.Toml.Nest

/-! Reading TOML documents. -/

namespace Titling.Toml

/-- Leaves out a comment up to the end of its line; a control character in it is an error. -/
def skipComment (text : List Char) : Option (List Char) :=
  match text with
  | '#' :: rest =>
    let comment := rest.takeWhile (· ≠ '\n')
    if comment.all (isLegal false) then some (rest.drop comment.length) else none
  | _ => some text

/-- Leaves out white space, line ends and comments; `fuel` bounds the number of comments. -/
def skipBetween : (fuel : Nat) → List Char → Option (List Char)
  | 0, _ => none
  | fuel + 1, text =>
    match text.dropWhile isSpaceOrNewline with
    -- Behind a comment there may be more space and further comments.
    | '#' :: rest => do skipBetween fuel (← skipComment ('#' :: rest))
    | rest => some rest

/-- Leaves out what may stand between the items of a list. -/
def skipFiller (text : List Char) : Option (List Char) :=
  skipBetween (text.length + 1) text

mutual

/-- Reads a value; `fuel` bounds the number of values, items and fields. -/
def value : (fuel : Nat) → List Char → Except Fault (Value × List Char)
  | 0, _ => .error .malformed
  | fuel + 1, text =>
    match text with
    | '[' :: rest => do
      -- An empty list may have comments in it, so they are left out before its end is looked for.
      match ← required (skipFiller rest) with
      | ']' :: rest => return (.list [], rest)
      | rest =>
        let (items, rest) ← items fuel rest
        return (.list items, rest)
    | '\x7b' :: rest =>
      match skipSpace rest with
      | '\x7d' :: rest => .ok (.table [], rest)
      | rest => (inlineFields fuel {} [] rest).map fun (fields, rest) => (.table fields, rest)
    | _ => scalar text

/-- Reads the items of a list up to its end; a comma may follow the last one. -/
def items : (fuel : Nat) → List Char → Except Fault (List Value × List Char)
  | 0, _ => .error .malformed
  | fuel + 1, text => do
    let (item, rest) ← value fuel text
    match ← required (skipFiller rest) with
    | ']' :: rest => return ([item], rest)
    -- What follows a comma is the end of the list or one more item.
    | ',' :: rest =>
      match ← required (skipFiller rest) with
      | ']' :: rest => return ([item], rest)
      | rest =>
        let (items, rest) ← items fuel rest
        return (item :: items, rest)
    | _ => .error .malformed

/-- Reads the fields of an inline table up to its end; no comma may follow the last one. -/
def inlineFields : (fuel : Nat) → Marks → Fields → List Char →
    Except Fault (Fields × List Char)
  | 0, _, _, _ => .error .malformed
  | fuel + 1, marks, fields, text => do
    let (key, rest) ← required (key? text)
    let rest ← required (mark? '=' rest)
    let (value, rest) ← value fuel (skipSpace rest)
    -- The names in front of the last one lead to the table that the field goes to.
    let (place, name) := splitKey key
    -- A table or a list that was the value of an earlier field cannot be added to.
    let fields ← if marks.isFrozen key then .error .malformed
      else required (changeNest false (addField name value) place fields)
    match skipSpace rest with
    | '\x7d' :: rest => return (fields, rest)
    | ',' :: rest =>
      let marks := if isContainer value then marks.freezing key else marks
      inlineFields fuel marks fields (skipSpace rest)
    | _ => .error .malformed

end

/-- A document as far as it has been read, with the section that its fields go to. -/
structure Draft where
  fields : Fields := []
  marks : Marks := {}
  section_ : Key := []

/-- The tables that a key goes through below a section, without the last name. -/
def passedKeys (above : Key) : Key → List Key
  | [] => []
  | [_] => []
  | name :: rest => (above ++ [name]) :: passedKeys (above ++ [name]) rest

/-- Reads a field of the present section. -/
def field (draft : Draft) (text : List Char) : Except Fault (Draft × List Char) := do
  let (key, rest) ← required (key? text)
  let rest ← required (mark? '=' rest)
  let (value, rest) ← value (rest.length + 1) (skipSpace rest)
  let (place, name) := splitKey key
  let table := draft.section_ ++ place
  -- A name before a point opens a table that has no head of its own.
  let marks ← required (draft.marks.through (passedKeys draft.section_ key))
  let fields ← if marks.isFrozen table then .error .malformed
    else required (changeNest true (addField name value) table draft.fields)
  let marks := if isContainer value then marks.freezing (draft.section_ ++ key) else marks
  return ({ draft with fields, marks }, rest)

/-- Reads the head of a section behind its bracket; each table is opened once. -/
def section? (draft : Draft) (text : List Char) : Option (Draft × List Char) := do
  let (key, rest) ← key? (skipSpace text)
  -- What the fields of the section before have opened now counts.
  let marks := draft.marks.beginSection
  if marks.isOpened key ∨ marks.isFrozen key then none
  else
    -- The table is made even if no field follows.
    let fields ← changeNest true some key draft.fields
    let rest ← mark? ']' rest
    return ({ fields, marks := marks.opening key, section_ := key }, rest)

/-- Reads the head of one more table in a list of tables behind its brackets. -/
def listSection? (draft : Draft) (text : List Char) : Option (Draft × List Char) := do
  let (key, rest) ← key? (skipSpace text)
  let marks := draft.marks.beginSection
  if marks.isFrozen key then none
  else
    let (place, name) := splitKey key
    let fields ← changeNest true (addTable name) place draft.fields
    let rest ← mark? ']' (← mark? ']' rest)
    return ({ fields, marks := (marks.forget key).opening key, section_ := key }, rest)

/-- Reads what a line says, if it says something. -/
def statement (draft : Draft) (text : List Char) : Except Fault (Draft × List Char) :=
  -- Two brackets are looked for first, as one of them would begin a section.
  match text with
  | '[' :: '[' :: rest => required (listSection? draft rest)
  | '[' :: rest => required (section? draft rest)
  | '#' :: _ => .ok (draft, text)
  | _ => field draft text

/-- Reads the lines of a document; `fuel` bounds their number. -/
def lines : (fuel : Nat) → Draft → List Char → Except Fault Fields
  | 0, _, _ => .error .malformed
  | fuel + 1, draft, text =>
    match skipSpace text with
    | [] => .ok draft.fields
    -- A blank line says nothing.
    | '\n' :: rest => lines fuel draft rest
    | text => do
      let (draft, rest) ← statement draft text
      -- Behind a statement a line has nothing but white space and a comment.
      match ← required (skipComment (skipSpace rest)) with
      | [] => return draft.fields
      | '\n' :: rest => lines fuel draft rest
      | _ => .error .malformed

/-- Writes each line end as a single character. -/
def unifyLineEnds : List Char → List Char
  | '\r' :: '\n' :: rest => '\n' :: unifyLineEnds rest
  | char :: rest => char :: unifyLineEnds rest
  | [] => []

/-- The fields of a document; of several faults the first in the document counts. -/
def read (document : String) : Except Fault Fields :=
  let text := unifyLineEnds document.toList
  lines (text.length + 1) {} text

end Titling.Toml
