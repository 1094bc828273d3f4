import Titling.Toml.Scalar

/-! Tables inside tables, and which of them may still be opened or changed. -/

namespace Titling.Toml

/-- The fields of a table. -/
abbrev Fields := Dictionary Value

/--
Changes the table that a key leads to, and makes the tables on the way. A list of tables leads to
its last one if `entersLists` says so.
-/
def changeNest (entersLists : Bool) (change : Fields → Option Fields) : Key → Fields →
    Option Fields
  | [], fields => change fields
  | name :: rest, fields => do
    let inner (nested : Fields) := changeNest entersLists change rest nested
    match fields.get? name with
    -- A table that is not there yet is made on the way.
    | none => return fields.put name (.table (← inner []))
    | some (.table nested) => return fields.put name (.table (← inner nested))
    | some (.list items) =>
      match entersLists, items.getLast? with
      -- The last table of the list is the one that is being written.
      | true, some (.table nested) =>
        return fields.put name (.list (items.dropLast ++ [.table (← inner nested)]))
      | _, _ => none
    | some _ => none

/-- Adds a field that is not there yet. -/
def addField (name : String) (value : Value) (fields : Fields) : Option Fields :=
  if fields.contains name then none else some (fields.put name value)

/-- Adds an empty table to a list of tables, which may be a new one. -/
def addTable (name : String) (fields : Fields) : Option Fields :=
  match fields.get? name with
  | none => some (fields.put name (.list [.table []]))
  | some (.list items) => some (fields.put name (.list (items ++ [.table []])))
  | some _ => none

/-- The table that holds a key's last name, and that name. -/
def splitKey (key : Key) : Key × String :=
  (key.dropLast, key.getLast?.getD "")

/-- What has been said about keys so far. -/
structure Marks where
  /-- Tables that cannot be opened again. -/
  opened : List Key := []
  /-- Values in which nothing can be changed. -/
  frozen : List Key := []
  /-- Tables that cannot be opened again once the next section begins. -/
  pending : List Key := []

namespace Marks

/-- Tells whether a key lies at or below a value in which nothing can be changed. -/
def isFrozen (marks : Marks) (key : Key) : Bool :=
  marks.frozen.any fun frozen => frozen.isPrefixOf key

/-- Tells whether a key is that of a table that cannot be opened again. -/
def isOpened (marks : Marks) (key : Key) : Bool :=
  marks.opened.contains key

/-- Marks a table as opened. -/
def opening (marks : Marks) (key : Key) : Marks :=
  { marks with opened := key :: marks.opened }

/-- Marks a value as fixed. -/
def freezing (marks : Marks) (key : Key) : Marks :=
  { marks with frozen := key :: marks.frozen }

/-- Begins a section: what was put off now counts. -/
def beginSection (marks : Marks) : Marks :=
  { marks with opened := marks.pending ++ marks.opened, pending := [] }

/-- Forgets what was said at and below a key. -/
def forget (marks : Marks) (key : Key) : Marks :=
  let keeps (other : Key) := !key.isPrefixOf other
  { marks with opened := marks.opened.filter keeps, frozen := marks.frozen.filter keeps }

/-- Notes the tables that a key with points goes through; none of them may have been opened. -/
def through (marks : Marks) : List Key → Option Marks
  | [] => some marks
  | key :: rest =>
    if marks.isOpened key then none
    else ({ marks with pending := key :: marks.pending } : Marks).through rest

end Marks

/-- Tells whether a value holds others. -/
def isContainer : Value → Bool
  | .list _ => true
  | .table _ => true
  | _ => false

end Titling.Toml
