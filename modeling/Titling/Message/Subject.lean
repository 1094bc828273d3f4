import Titling.Message.Kind.Help
import Titling.Message.Kind.Members

/-! What a field of a template leads to: a value, its kind, or a member of either. -/

namespace Titling.Message

/-- What a field leads to. -/
inductive Subject where
  | value (value : Value)
  | kind (kind : Kind)
  | kinds (kinds : List Kind)
  | row (items : List Value)
  /-- A member of a kind, on its own. -/
  | member (owner : Kind) (trait : Trait) (name : String)
  /-- A function together with the subject or the kind that it belongs to. -/
  | bound (owner : Kind) (trait : Trait) (name : String) (self : Subject)
  /-- A kind that is narrowed down to what it holds. -/
  | alias (origin : Kind) (argument : Value)
  /-- All members of a kind. -/
  | view (kind : Kind)

namespace Subject

/-- The kind that a subject is of. -/
def kindOf : Subject → Kind
  | .value held => .ofValue held
  | .kind _ => .type
  | .kinds _ | .row _ => .row
  | .member _ trait _ => .ofTrait trait
  | .bound _ .operator _ _ => .boundOperator
  | .bound .. => .function
  | .alias .. => .alias
  | .view _ => .view

/-- A text as a subject. -/
def text (text : String) : Subject :=
  .value (.text text)

/-- A number as a subject. -/
def number (number : Nat) : Subject :=
  .value (.int number)

/-- A text as a subject, or none. -/
def text? (text : Option String) : Subject :=
  .value ((text.map .text).getD .null)

/-- A member as it is described. -/
def memberText (owner : Kind) (trait : Trait) (name : String) : String :=
  let word := match trait with
    | .operator => "slot wrapper"
    | .property => "attribute"
    | .slot => "member"
    | _ => "method"
  "<" ++ word ++ " '" ++ name ++ "' of '" ++ owner.fullName ++ "' objects>"

/-- The place in memory at which a described subject is said to be; no program can rely on it. -/
def address : String := "0x7f0000000000"

/-- A function together with what it belongs to, as it is described. -/
def boundText (trait : Trait) (name : String) (kind : Kind) : String :=
  let role := match trait with
    | .operator => "method-wrapper '" ++ name ++ "'"
    | _ => "built-in method " ++ name
  "<" ++ role ++ " of " ++ kind.fullName ++ " object at " ++ address ++ ">"

/-- A function that has to do with no subject, as it is described among the members of its kind. -/
def lonerText (name : String) : String :=
  "<" ++ Kind.loner.name ++ "(" ++ boundText .free name .type ++ ")>"

/-- Items between round brackets; a single one has a comma behind it. -/
def rowText : List String → String
  | [item] => "(" ++ item ++ ",)"
  | items => "(" ++ ", ".intercalate items ++ ")"

/-- A kind as it is described. -/
def kindText (kind : Kind) : String :=
  "<class '" ++ kind.fullName ++ "'>"

/-- A member in the view of its kind. -/
def entry (kind : Kind) (name : String) (trait : Trait) : Subject :=
  match trait with
  | .absent => .value .null
  | .help => text? kind.help?
  | .maker => .bound kind trait name (.kind kind)
  | _ => .member kind trait name

/-- A subject other than a view as it stands inside a list. -/
def plainLiteral : Subject → Except Value.TextError String
  | .value held => held.literal
  | .kind sort => .ok (kindText sort)
  | .kinds sorts => .ok (rowText (sorts.map kindText))
  | .row items => (Value.literalItems items).map rowText
  | .member _ .free name => .ok (lonerText name)
  | .member owner trait name => .ok (memberText owner trait name)
  | .bound _ trait name self => .ok (boundText trait name self.kindOf)
  | .alias origin argument =>
    argument.literal.map fun shown => origin.fullName ++ "[" ++ shown ++ "]"
  | .view _ => .ok ""

/-- The members of a kind as a table. -/
def viewText (kind : Kind) : Except Value.TextError String := do
  let fields ← kind.members.mapM fun member => do
    let shown ← (entry kind member.1 member.2).plainLiteral
    return (Text.quoted member.1, shown)
  return Value.tableText fields

/-- A subject as it stands inside a list; no view stands inside another one. -/
def literal : Subject → Except Value.TextError String
  | .view sort => (viewText sort).map fun shown => Kind.view.name ++ "(" ++ shown ++ ")"
  | subject => subject.plainLiteral

/-- The plain text of a subject: texts and views stand for themselves. -/
def display : Subject → Except Value.TextError String
  | .value held => held.display
  | .view sort => viewText sort
  | subject => subject.plainLiteral

end Subject

end Titling.Message
