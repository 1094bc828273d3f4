/-! What there is to read about a member of a kind. -/

namespace Titling.Message

/-- How a function is called, and what a member is for. -/
structure Note where
  signature : Option String := none
  help : Option String := none
deriving DecidableEq, Repr

namespace Note

/-- A note that says how a function is called, and what for. -/
def full (signature help : String) : Note where
  signature := some signature
  help := some help

/-- A note that only says what a member is for. -/
def told (help : String) : Note where
  help := some help

/-- A note that only says how a function is called. -/
def called (signature : String) : Note where
  signature := some signature

end Note

end Titling.Message
