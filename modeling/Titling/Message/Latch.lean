import Titling.Message.Bus

/-! Warnings that are given once, however often there is cause for them. -/

namespace Titling.Message

/-- The keys for which a warning has been given. -/
structure Latch where
  keys : List String := []
deriving DecidableEq, Repr

namespace Latch

/-- Tells whether a key has come up. -/
def isSet (latch : Latch) (key : String) : Bool :=
  latch.keys.contains key

/-- Notes a key, and answers whether it has come up for the first time. -/
def trip (latch : Latch) (key : String) : Bool × Latch :=
  if latch.isSet key then (false, latch) else (true, { keys := key :: latch.keys })

/-- A warning's answer: whether it was sent, and what the renderer did. -/
abbrev Warning := Except SendError (Bool × List Emission)

/-- Names that a warning refuses before it notes anything. -/
def refusedNames : List String :=
  ["self", "msg_id"]

/-- Sends a warning the first time its id comes up; the id is noted even if sending fails. -/
def warn (latch : Latch) (bus : Bus) (id : String) (arguments : Arguments) :
    Warning × Latch :=
  if usesName refusedNames arguments then (.error .reservedName, latch)
  else match latch.trip id with
    | (false, latch) => (.ok (false, []), latch)
    -- The key stays noted whatever comes of the sending.
    | (true, latch) => ((bus.send .warning id arguments).map fun done => (true, done), latch)

/-- A call on a latch. -/
inductive Call where
  | isSet (key : String)
  | trip (key : String)
  | warn (id : String) (arguments : Arguments)

/-- What a call answers: a truth value, or a warning's answer. -/
inductive Answer where
  | flag (value : Bool)
  | warning (warning : Warning)

/-- Carries out a call. -/
def perform (bus : Bus) (latch : Latch) : Call → Answer × Latch
  | .isSet key => (.flag (latch.isSet key), latch)
  | .trip key =>
    let (first, latch) := latch.trip key
    (.flag first, latch)
  | .warn id arguments =>
    let (warning, latch) := latch.warn bus id arguments
    (.warning warning, latch)

/-- Carries out calls in turn. -/
def performAll (bus : Bus) : Latch → List Call → List Answer
  | _, [] => []
  | latch, call :: rest =>
    let (answer, latch) := latch.perform bus call
    answer :: performAll bus latch rest

end Latch

end Titling.Message
