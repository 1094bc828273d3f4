import Titling.Message.Bus

/-!
Sending a message: the bus makes it first, and a renderer is handed that message and nothing else.

Making a message is the only step that can fail; without a renderer it is not even begun.
-/

namespace Titling.Message

/-- The message that a bus makes of an id and values, or the reason why there is none. -/
def Bus.message (bus : Bus) (id : String) (arguments : Arguments) : Except SendError String :=
  if usesName reservedNames arguments then .error .reservedName
  else do
    let template ← (bus.find id).mapError .catalog
    messageOf id template arguments

/-- Every renderer does one thing with a warning. -/
theorem exists_render_warning (renderer : Renderer) (message : String) :
    ∃ emission, renderer.render .warning message = [emission] := by
  cases renderer with
  | collecting => exact ⟨_, rfl⟩
  | logging => exact ⟨_, rfl⟩
  | console verbose => exact ⟨_, rfl⟩

/-- A template that cannot be filled is an error unless its fault leaves a note. -/
theorem exists_messageOf_error_iff (id template : String) (arguments : Arguments) :
    (∃ error, messageOf id template arguments = .error error) ↔
      ∃ fault, format template arguments = .error fault ∧ fault.isNoted = false := by
  unfold messageOf
  cases format template arguments with
  | ok message => simp
  | error fault => cases noted : fault.isNoted <;> simp [noted]

namespace Bus

variable {bus : Bus} {arguments : Arguments}

/-- Where a message is sent, the renderer is handed it on its level. -/
theorem send_of_renderer {renderer : Renderer} (installed : bus.renderer = some renderer)
    (level : Level) (id : String) (arguments : Arguments) :
    bus.send level id arguments = (bus.message id arguments).map (renderer.render level) := by
  -- A reserved name is refused before the renderer is asked for; otherwise a message is made first.
  unfold send message
  split
  · rfl
  · rw [installed]
    cases (bus.find id).mapError SendError.catalog with
    | error error => rfl
    | ok template => cases messageOf id template arguments <;> rfl

/-- Without a renderer nothing is made or sent, and nothing fails. -/
theorem send_of_silent (silent : bus.renderer = none)
    (accepted : usesName reservedNames arguments = false) (level : Level) (id : String) :
    bus.send level id arguments = .ok [] := by
  simp [send, accepted, silent]

/-- A bus makes the message of the template that it finds. -/
theorem message_of_found {id template : String}
    (accepted : usesName reservedNames arguments = false) (found : bus.find id = .ok template) :
    bus.message id arguments = messageOf id template arguments := by
  rw [message, accepted, found]
  rfl

/-- A bus makes no message without a template. -/
theorem message_of_not_found {id : String} {error : Catalog.Error}
    (accepted : usesName reservedNames arguments = false) (missing : bus.find id = .error error) :
    bus.message id arguments = .error (.catalog error) := by
  rw [message, accepted, missing]
  rfl

/-- No message is made if a name is reserved, if there is no template, or if it cannot be filled. -/
theorem exists_message_error_iff (bus : Bus) (id : String) (arguments : Arguments) :
    (∃ error, bus.message id arguments = .error error) ↔
      usesName reservedNames arguments = true ∨ (∃ error, bus.find id = .error error) ∨
        ∃ template fault, bus.find id = .ok template ∧
          format template arguments = .error fault ∧ fault.isNoted = false := by
  -- The three reasons are met in this order, and each of them ends it.
  cases accepted : usesName reservedNames arguments with
  | true => simp [message, accepted]
  | false =>
    cases found : bus.find id with
    | error error => simp [message_of_not_found accepted found]
    | ok template =>
      rw [message_of_found accepted found, exists_messageOf_error_iff]
      simp

end Bus

end Titling.Message
