import Titling.Value

/-! The kinds of what a field of a template can lead to, and what there is to know of each. -/

namespace Titling.Message

/-- A kind of values, or of what belongs to a kind. -/
inductive Kind where
  | object
  | type
  | integer
  | truth
  | float
  | text
  | list
  | table
  | null
  | row
  | date
  | time
  | instant
  | method
  | operator
  | property
  | slot
  | shared
  | function
  | boundOperator
  | alias
  | view
  | loner
deriving DecidableEq, Repr

/-- What members of a kind are. -/
inductive Trait where
  /-- A function that a subject of the kind has. -/
  | method
  /-- A function behind an operator or behind one of the operations that all kinds have. -/
  | operator
  /-- A value that is computed from a subject. -/
  | property
  /-- A value that a subject keeps. -/
  | slot
  /-- A function that the kind itself has, and every kind that comes from it. -/
  | shared
  /-- A function that belongs to this kind alone. -/
  | maker
  /-- A function that has to do with no subject. -/
  | free
  /-- An operation that the kind does without. -/
  | absent
  /-- The description of the kind. -/
  | help
deriving DecidableEq, Repr

namespace Kind

/-- The kind that a value is of. -/
def ofValue : Value → Kind
  | .null => .null
  | .bool _ => .truth
  | .int _ => .integer
  | .float _ => .float
  | .text _ => .text
  | .moment (.date _) => .date
  | .moment (.time _) => .time
  | .moment (.instant ..) => .instant
  | .list _ => .list
  | .table _ => .table

/-- The kind that the members of a trait are of. -/
def ofTrait : Trait → Kind
  | .method => .method
  | .operator => .operator
  | .property => .property
  | .slot => .slot
  | .shared => .shared
  | .maker => .function
  | .free => .loner
  | .absent => .null
  | .help => .text

/-- The name of a kind. -/
def name : Kind → String
  | .object => "object"
  | .type => "type"
  | .integer => "int"
  | .truth => "bool"
  | .float => "float"
  | .text => "str"
  | .list => "list"
  | .table => "dict"
  | .null => "NoneType"
  | .row => "tuple"
  | .date => "date"
  | .time => "time"
  | .instant => "datetime"
  | .method => "method_descriptor"
  | .operator => "wrapper_descriptor"
  | .property => "getset_descriptor"
  | .slot => "member_descriptor"
  | .shared => "classmethod_descriptor"
  | .function => "builtin_function_or_method"
  | .boundOperator => "method-wrapper"
  | .alias => "GenericAlias"
  | .view => "mappingproxy"
  | .loner => "staticmethod"

/-- The family that most kinds belong to, which is left out where they are named. -/
def commonFamily : String := "builtins"

/-- The family that a kind belongs to. -/
def family : Kind → String
  | .date | .time | .instant => "datetime"
  | .alias => "types"
  | _ => commonFamily

/-- The name of a kind behind its family. -/
def fullName (kind : Kind) : String :=
  if kind.family = commonFamily then kind.name else kind.family ++ "." ++ kind.name

/-- A kind and those that it comes from, the nearest first. -/
def lineage : Kind → List Kind
  | .object => [.object]
  | .truth => [.truth, .integer, .object]
  | .instant => [.instant, .date, .object]
  | kind => [kind, .object]

/-- The kind that a kind comes from. -/
def parent? (kind : Kind) : Option Kind :=
  kind.lineage.tail.head?

/-- The room that a subject of a kind takes, without and for each of its parts. -/
def room : Kind → Nat × Nat
  | .object | .null => (16, 0)
  | .type => (904, 40)
  | .integer => (24, 4)
  | .truth => (32, 4)
  | .row => (24, 8)
  | .float | .view => (24, 0)
  | .text => (80, 0)
  | .list => (40, 0)
  | .table | .property | .slot => (48, 0)
  | .method | .operator | .shared | .function => (56, 0)
  | .boundOperator | .loner | .date => (32, 0)
  | .alias => (64, 0)
  | .time => (40, 0)
  | .instant => (48, 0)

/-- Where a subject keeps members of its own, and where references to it; zero is nowhere. -/
def places : Kind → Nat × Nat
  | .type => (264, 368)
  | .function | .alias => (0, 40)
  | .loner => (24, 0)
  | _ => (0, 0)

/-- What the subjects of a kind can do, one bit for each ability. -/
def abilities : Kind → Nat
  | .object => 0x81500
  | .type => 0x80085D00
  | .integer => 0x1481500
  | .truth => 0x1481100
  | .float => 0x481500
  | .text => 0x10481500
  | .list => 0x2485520
  | .table => 0x20485540
  | .row => 0x4485520
  | .null | .date | .time | .instant => 0x81100
  | .method => 0xA5980
  | .operator => 0xA5180
  | .function => 0x85980
  | .alias => 0x85D00
  | .view => 0x85140
  | .loner => 0x85500
  | .property | .slot | .shared | .boundOperator => 0x85180

/-- How a subject of a kind is made, where that is described. -/
def signature? : Kind → Option String
  | .object => some "()"
  | .float => some "(x=0, /)"
  | .list | .row => some "(iterable=(), /)"
  | _ => none

/-- Tells whether a kind can be narrowed down to what it holds. -/
def isGeneric (kind : Kind) : Bool :=
  [Kind.list, .table, .row, .type, .view].contains kind

end Kind

end Titling.Message
