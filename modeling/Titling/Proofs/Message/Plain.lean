import Titling.Proofs.Message.Bus
import Titling.Proofs.Message.Template

/-! Messages of plain templates: the texts of their parts, or a note if a field has no text. -/

namespace Titling.Message

variable {parts : List Part} {texts : Dictionary String} {bus : Bus} {id : String}

/-- Where every field has a text, the message is made of the texts of the parts. -/
theorem Bus.message_of_known (plain : ∀ part ∈ parts, part.IsPlain)
    (accepted : usesName reservedNames (textArguments texts) = false)
    (found : bus.find id = .ok (templateOf parts))
    (known : ∀ name, .field name ∈ parts → texts.get? name ≠ none) :
    bus.message id (textArguments texts) =
      .ok (String.join (parts.map fun part => part.text texts)) := by
  rw [Bus.message_of_found accepted found, messageOf, format_of_known plain known]

/-- Where a field has no text, there is a note about the id in the place of the message. -/
theorem Bus.message_of_unknown (plain : ∀ part ∈ parts, part.IsPlain)
    (accepted : usesName reservedNames (textArguments texts) = false)
    (found : bus.find id = .ok (templateOf parts))
    (unknown : ∃ name, .field name ∈ parts ∧ texts.get? name = none) :
    bus.message id (textArguments texts) = .ok (formattingNote id) := by
  rw [Bus.message_of_found accepted found, messageOf, format_of_unknown plain unknown]
  rfl

/--
Sending a message whose template is plain: the renderer is handed one message, on the level that it
is sent on.

It is made of the literal texts with single braces and of the values as they are, whatever these
look like. If a field has no value, it is a note about the id instead, and nothing fails. Where
there is no renderer nothing is sent and nothing fails, whatever the template and the values are.
-/
theorem send_templateOf (plain : ∀ part ∈ parts, part.IsPlain)
    (accepted : usesName reservedNames (textArguments texts) = false)
    (found : bus.find id = .ok (templateOf parts)) (level : Level) :
    (∀ renderer, bus.renderer = some renderer →
      (∀ name, .field name ∈ parts → texts.get? name ≠ none) →
        bus.send level id (textArguments texts) =
          .ok (renderer.render level (String.join (parts.map fun part => part.text texts)))) ∧
    (∀ renderer, bus.renderer = some renderer →
      (∃ name, .field name ∈ parts ∧ texts.get? name = none) →
        bus.send level id (textArguments texts) =
          .ok (renderer.render level (formattingNote id))) ∧
    (∀ silent : Bus, silent.renderer = none →
      ∀ id arguments, usesName reservedNames arguments = false →
        silent.send level id arguments = .ok []) := by
  refine ⟨fun renderer installed known => ?_, fun renderer installed unknown => ?_,
    fun silent absent id arguments allowed => Bus.send_of_silent absent allowed level id⟩
  · rw [Bus.send_of_renderer installed, Bus.message_of_known plain accepted found known]
    rfl
  · rw [Bus.send_of_renderer installed, Bus.message_of_unknown plain accepted found unknown]
    rfl

/-- A name between braces that are shown, and a value behind it. -/
def bracedParts : List Part :=
  [.literal "\x7b", .field "name", .literal "\x7d is ", .field "value"]

/-- A bus that has the template of these parts for every id. -/
def bracedBus : Bus where
  renderer := some .collecting
  find := fun _ => .ok (templateOf bracedParts)

/-- Two values, of which the second one looks like a field. -/
def bracedTexts : Dictionary String :=
  [("name", "x"), ("value", "\x7bname\x7d")]

/-- Fields are filled between braces that are shown, and a value that looks like a field stays. -/
theorem send_templateOf_braces :
    (∀ part ∈ bracedParts, part.IsPlain) ∧
    usesName reservedNames (textArguments bracedTexts) = false ∧
    bracedBus.find "note" = .ok (templateOf bracedParts) ∧
    templateOf bracedParts = "\x7b\x7b\x7bname\x7d\x7d\x7d is \x7bvalue\x7d" ∧
    bracedBus.send .error "note" (textArguments bracedTexts) =
      .ok [.collected .error "\x7bx\x7d is \x7bname\x7d"] ∧
    bracedBus.send .debug "note" (textArguments (bracedTexts.take 1)) =
      .ok [.collected .debug "<formatting_error for 'note'>"] := by
  have plain : ∀ part ∈ bracedParts, part.IsPlain := by decide +kernel
  have accepted : usesName reservedNames (textArguments bracedTexts) = false := by decide
  have fewer : usesName reservedNames (textArguments (bracedTexts.take 1)) = false := by decide
  have found : bracedBus.find "note" = .ok (templateOf bracedParts) := rfl
  -- With both texts the message is made; without the second one a note is sent in its place.
  obtain ⟨made, -, -⟩ := send_templateOf plain accepted found .error
  obtain ⟨-, noted, -⟩ := send_templateOf plain fewer found .debug
  refine ⟨plain, accepted, found, by decide +kernel, ?_, ?_⟩
  · rw [made .collecting rfl]
    · rfl
    · simp [bracedParts, bracedTexts, Dictionary.get?]
  · rw [noted .collecting rfl]
    · rfl
    · exact ⟨"value", by decide, by decide⟩

end Titling.Message
