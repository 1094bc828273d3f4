import Titling.Message.Kind.Notes
import Titling.Message.Subject

/-!
Attributes of what a field leads to. A value has the members of its kind's lineage. A kind has the
parts that all kinds have, then the members of its lineage, then the functions of kinds.
-/

namespace Titling.Message

namespace Subject

/-- The description of a kind, which some kinds only have a member for. -/
def helpOf (kind : Kind) : Subject :=
  match kind.help?, kind.own? "__doc__" with
  | none, some .property => .member kind .property "__doc__"
  | help, _ => text? help

/-- The parts of a number. -/
def numberPart? (name : String) : Value → Option Value
  | .bool truth => partOfInt (if truth then 1 else 0)
  | .int number => partOfInt number
  | .float number =>
    match name with
    | "real" => some (.float number)
    | "imag" => some (.float (.finite false 0 Decimal.leastExponent))
    | _ => none
  | _ => none
where
  /-- An integer is its own real part and its own numerator. -/
  partOfInt (number : Int) : Option Value :=
    match name with
    | "real" | "numerator" => some (.int number)
    | "imag" => some (.int 0)
    | "denominator" => some (.int 1)
    | _ => none

/-- The parts of a kind. -/
def kindPart? (name : String) (kind : Kind) : Option Subject :=
  match name with
  | "__name__" | "__qualname__" => some (text kind.name)
  | "__module__" => some (text kind.family)
  | "__doc__" => some (helpOf kind)
  | "__text_signature__" => some (text? kind.signature?)
  | "__dict__" => some (.view kind)
  | "__mro__" => some (.kinds kind.lineage)
  | "__bases__" => some (.kinds kind.parent?.toList)
  | "__base__" => some ((kind.parent?.map .kind).getD (.value .null))
  | "__flags__" => some (number kind.abilities)
  | "__basicsize__" => some (number kind.room.1)
  | "__itemsize__" => some (number kind.room.2)
  | "__dictoffset__" => some (number kind.places.1)
  | "__weakrefoffset__" => some (number kind.places.2)
  | _ => none

/-- The parts of a member, alone or bound; a name is full behind that of its holder. -/
def memberPart? (part : String) (owner holder : Kind) (trait : Trait) (name : String) :
    Option Subject :=
  match part with
  | "__doc__" => some (text? (owner.noteOn trait name).help)
  | "__text_signature__" => some (text? (owner.noteOn trait name).signature)
  | "__name__" => some (text name)
  | "__qualname__" => some (text (holder.name ++ "." ++ name))
  | "__objclass__" => some (.kind owner)
  | "__module__" => some (.value .null)
  | _ => none

/-- The parts of a function that has to do with no subject, among the members of its kind. -/
def lonerPart? (part : String) (owner : Kind) (name : String) : Option Subject :=
  match part with
  | "__func__" | "__wrapped__" => some (.bound owner .free name (.kind owner))
  | "__isabstractmethod__" => some (.value (.bool false))
  | "__dict__" => some (.value (.table []))
  | _ => none

/-- The parts of a narrowed kind, which leaves nothing open. -/
def aliasPart? (name : String) (origin : Kind) (argument : Value) : Option Subject :=
  match name with
  | "__origin__" => some (.kind origin)
  | "__args__" => some (.row [argument])
  | "__parameters__" => some (.row [])
  | "__unpacked__" => some (.value (.bool false))
  | "__typing_unpacked_tuple_args__" => some (.value .null)
  | _ => none

/-- The kind that the full name of a bound function begins with. -/
def holderOf (owner : Kind) (trait : Trait) : Subject → Kind
  -- An operator keeps the name of the kind that it comes from.
  | .kind sort => if trait = .operator then owner else sort
  | self => if trait = .operator then owner else self.kindOf

/-- The value of a property or a slot of a subject. -/
def part? (name : String) (subject : Subject) : Option Subject :=
  if name = "__class__" then some (.kind subject.kindOf)
  else match subject with
    | .value held => (numberPart? name held).map .value
    | .kind sort => kindPart? name sort
    | .member owner .free own => lonerPart? name owner own
    | .member owner trait own => memberPart? name owner owner trait own
    | .bound owner trait own self =>
      if name = "__self__" then some (if trait = .free then .value .null else self)
      else memberPart? name owner (holderOf owner trait self) trait own
    | .alias origin argument => aliasPart? name origin argument
    | .kinds _ | .row _ | .view _ => none

/-- What a member that was found in a lineage is for a subject. -/
def reached (subject : Subject) (name : String) (owner : Kind) (trait : Trait) :
    Option Subject :=
  match trait with
  | .property | .slot => subject.part? name
  | .method | .operator => some (.bound owner trait name subject)
  | .shared => some (.bound owner trait name (.kind subject.kindOf))
  | .maker | .free => some (.bound owner trait name (.kind owner))
  | .absent => some (.value .null)
  | .help => some (helpOf owner)

/-- What a member that was found in the lineage of a kind is for the kind itself. -/
def reachedInKind (kind : Kind) (name : String) (owner : Kind) (trait : Trait) : Subject :=
  match trait with
  | .shared => .bound owner trait name (.kind kind)
  | .maker | .free => .bound owner trait name (.kind owner)
  | .absent => .value .null
  | .help => helpOf owner
  | _ => .member owner trait name

/-- The member of a subject under a name, by the lineage of its kind. -/
def member? (name : String) (subject : Subject) : Option Subject :=
  (subject.kindOf.find? name).bind fun found => subject.reached name found.1 found.2

/-- Tells whether all kinds have a member as a value, before any of them has its own. -/
def isPartOfKinds (name : String) : Bool :=
  match Kind.type.find? name with
  | some (_, trait) => trait = .property ∨ trait = .slot
  | none => false

/-- The member of a kind under a name: what kinds have as values, then its own, then the rest. -/
def memberOfKind? (name : String) (kind : Kind) : Option Subject :=
  if isPartOfKinds name then (Subject.kind kind).member? name
  else match kind.find? name with
    | some (owner, trait) => some (reachedInKind kind name owner trait)
    | none => (Subject.kind kind).member? name

/-- The members that a narrowed kind has itself; all others are those of the kind it narrows. -/
def aliasMembers : List String :=
  ["__class__", "__origin__", "__args__", "__unpacked__", "__parameters__",
   "__typing_unpacked_tuple_args__", "__mro_entries__", "__reduce_ex__", "__reduce__", "__copy__",
   "__deepcopy__"]

/-- What an attribute of a subject is. -/
def attribute? (name : String) (subject : Subject) : Option Subject :=
  match subject with
  | .kind sort => memberOfKind? name sort
  | .alias origin _ =>
    if aliasMembers.contains name then subject.member? name else memberOfKind? name origin
  | _ => subject.member? name

end Subject

end Titling.Message
