import Titling.Message.Latch

/-! Recording which messages are sent, in the place of a renderer. -/

namespace Titling.Message

/-- A message as it was sent, before any formatting. -/
structure Sent where
  level : String
  id : String
  arguments : Arguments

/-- The messages sent so far. -/
structure Recorder where
  messages : List Sent := []

namespace Recorder

/-- Records a message. -/
def record (recorder : Recorder) (level id : String) (arguments : Arguments) : Recorder where
  messages := recorder.messages ++ [{ level, id, arguments }]

/-- Records a message where it would be sent; a reserved name stops it. -/
def send (recorder : Recorder) (level id : String) (arguments : Arguments) :
    Except SendError Recorder :=
  if usesName reservedNames arguments then .error .reservedName
  else .ok (recorder.record level id arguments)

/-- Records a warning the first time its id comes up, and answers whether it did. -/
def warn (recorder : Recorder) (latch : Latch) (id : String) (arguments : Arguments) :
    Except SendError (Bool × Recorder) × Latch :=
  if usesName Latch.refusedNames arguments then (.error .reservedName, latch)
  else match latch.trip id with
    | (false, latch) => (.ok (false, recorder), latch)
    | (true, latch) =>
      ((recorder.send "warning" id arguments).map fun recorder => (true, recorder), latch)

/-- Tells whether a message has an id, and a level if one is asked for. -/
def matching (id : String) (level : Option String) (message : Sent) : Bool :=
  message.id == id && (level.map (· == message.level)).getD true

/-- How many messages with an id were sent, on one level or on any. -/
def count (recorder : Recorder) (id : String) (level : Option String) : Nat :=
  recorder.messages.countP (matching id level)

/-- What is wrong if a message was to be sent and was not. -/
def complaint? (recorder : Recorder) (id : String) (level : Option String) : Option String :=
  if recorder.count id level = 0 then
    let seen := Value.listText (recorder.messages.map fun message => Text.quoted message.id)
    some ("Message with ID '" ++ id ++ "' was not sent.\nCaptured IDs: " ++ seen)
  else none

end Recorder

end Titling.Message
