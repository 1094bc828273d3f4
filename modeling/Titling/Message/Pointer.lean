import Titling.Value

/-! Addresses of messages, built name by name. -/

namespace Titling.Message

/-- The address of a message. -/
structure Pointer where
  path : String := ""
deriving DecidableEq, Repr

namespace Pointer

/-- Goes on to a name below; names with two underscores in front are reserved. -/
def child? (pointer : Pointer) (name : String) : Option Pointer :=
  if name.startsWith "__" then none
  else if pointer.path.isEmpty then some ⟨name⟩
  else some ⟨pointer.path ++ "." ++ name⟩

/-- An address as it is shown to a developer. -/
def description (pointer : Pointer) : String :=
  if pointer.path.isEmpty then "<L: (root)>" else "<L: '" ++ pointer.path ++ "'>"

/-- Tells whether an address is the text of a value, if that has one. -/
def isTextOf (pointer : Pointer) (value : Value) : Except Value.TextError Bool :=
  value.display.map fun text => pointer.path == text

end Pointer

/-- The id of a message: an address, or a plain text. -/
inductive Id where
  | pointer (address : Pointer)
  | text (written : String)
deriving DecidableEq, Repr

namespace Id

/-- The name under which an address gives its text away. -/
def textName : String := "_path"

/-- The text of an id. -/
def toText : Id → String
  | .pointer address => address.path
  | .text written => written

/-- Goes on to a name; a plain text has no names below it. -/
def child? (name : String) : Id → Option Id
  | .pointer address =>
    if name = textName then some (.text address.path) else (address.child? name).map .pointer
  | .text _ => none

/-- Goes on to several names in turn. -/
def descend? (id : Id) (names : List String) : Option Id :=
  names.foldlM (fun id name => id.child? name) id

/-- An id as it is shown to a developer. -/
def description : Id → String
  | .pointer address => address.description
  | .text written => Text.quoted written

/-- Tells whether an id is the same as a value; only an address looks at the value's text. -/
def isSameAs : Id → Value → Except Value.TextError Bool
  | .pointer address, value => address.isTextOf value
  | .text written, .text other => .ok (written == other)
  | .text _, _ => .ok false

end Id

end Titling.Message
