import Titling.Proofs.CharacterReference.Overlong
import Titling.Proofs.Markup.Escape
import Titling.Title.Directive

/-! The normal form of a title's text: escaping is undone by decoding, so one round is enough. -/

namespace Titling.Title

open Titling.CharacterReference
open Titling.Markup

/-- A text is normalised by decoding it once and escaping what it stands for. -/
theorem evaluatedText_eq_ok_iff (text normal : String) :
    evaluatedText true text = .ok normal ↔
      ∃ plain, decode? text = some plain ∧ normal = escapeTitle plain := by
  unfold evaluatedText
  cases decode? text <;> simp [eq_comm]

/-- A text has no normal form exactly if it cannot be decoded. -/
theorem evaluatedText_eq_error_iff (text : String) (error : Error) :
    evaluatedText true text = .error error ↔
      decode? text = none ∧ error = .overlongReference := by
  unfold evaluatedText
  cases decode? text <;> simp [eq_comm]

/-- Normal texts are inert. -/
theorem inert_of_evaluatedText {text normal : String}
    (made : evaluatedText true text = .ok normal) : Inert normal.toList := by
  obtain ⟨plain, -, rfl⟩ := (evaluatedText_eq_ok_iff text normal).mp made
  exact inert_escapeTitle plain

/-- Inert texts are normal already, and no others are. -/
theorem evaluatedText_eq_self_iff (text : String) :
    evaluatedText true text = .ok text ↔ Inert text.toList := by
  constructor
  · exact inert_of_evaluatedText
  · intro inert
    -- An inert text is what escaping made of some text, and decoding gives that text back.
    obtain ⟨plain, rfl⟩ := (inert_iff text).mp inert
    exact (evaluatedText_eq_ok_iff _ _).mpr ⟨plain, decode?_escapeTitle plain, rfl⟩

/-- A text that was normalised once is not changed by normalising it again. -/
theorem evaluatedText_evaluatedText (text : String) :
    (do
      let normal ← evaluatedText true text
      evaluatedText true normal) = evaluatedText true text := by
  cases made : evaluatedText true text with
  -- Where there is no normal form, the failure is that of the first round.
  | error error => rfl
  | ok normal =>
    have inert : Inert normal.toList := inert_of_evaluatedText made
    exact (evaluatedText_eq_self_iff normal).mpr inert

/--
Decoding undoes escaping, so that normalising a text twice is normalising it once.

This is so for every text, whatever looks like a reference in it, and for the references of titles
as well as for those of attribute values. A text that cannot be decoded, because a decimal reference
in it is overlong, fails in the first round and has no normal form.
-/
theorem decoding_undoes_escaping (text : String) :
    decode? (escapeTitle text) = some text ∧
    decode? (escapeAttribute text) = some text ∧
    (do
      let normal ← evaluatedText true text
      evaluatedText true normal) = evaluatedText true text ∧
    (∀ normal, evaluatedText true text = .ok normal ↔
      ∃ plain, decode? text = some plain ∧ normal = escapeTitle plain) ∧
    (evaluatedText true text = .error .overlongReference ↔ Overlong text.toList) := by
  refine ⟨decode?_escapeTitle text, decode?_escapeAttribute text,
    evaluatedText_evaluatedText text, evaluatedText_eq_ok_iff text, ?_⟩
  -- Decoding is the only step that can fail.
  rw [evaluatedText_eq_error_iff, decode?_eq_none_iff]
  simp

/-- What spells out a reference stays so, and the longest known name is read of a longer one. -/
example : evaluatedText true "&amp;lt;&#39&notin<" = .ok "&amp;lt;&#39;¬in&lt;" := by
  decide +kernel

end Titling.Title
