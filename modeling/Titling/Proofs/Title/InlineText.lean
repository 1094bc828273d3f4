import Titling.Proofs.CharacterReference.Overlong
import Titling.Proofs.Markup.Escape
import Titling.Proofs.Title.Expression
import Titling.Proofs.Title.Pass

/-! Inline text in a pass with a pattern: quoted, evaluated and decoded it is the text it was. -/

namespace Titling.Title

open Titling.CharacterReference
open Titling.Markup
open Titling.Text

/-- Tells that a title has no text attribute, or an empty one. -/
def Silent (settings : Settings) (title : Element) : Prop :=
  (title.get? settings.textAttribute).getD "" = ""

instance (settings : Settings) : DecidablePred (Silent settings) :=
  fun title => inferInstanceAs (Decidable ((title.get? settings.textAttribute).getD "" = ""))

/-- A silent title has its inline text for an expression. -/
theorem expression?_of_silent {settings : Settings} {title : Element}
    (silent : Silent settings title) :
    expression? settings title = (inlineText? title).map inlineLiteral := by
  unfold Silent at silent
  unfold expression?
  -- An empty text attribute counts as none, so in both cases the inline text is taken.
  cases explicit : title.get? settings.textAttribute with
  | none => rfl
  | some written =>
    rw [explicit, Option.getD_some] at silent
    simp [silent]

section Inline

variable {settings : Settings} {layout content : Option Element} {side : Side} {title : Element}
  {text : String} {rest : List Node}

/-- The expression of a silent title is its first child as a quoted literal, if that is a text. -/
theorem value?_of_inlineText (here : side.of layout content = some title)
    (silent : Silent settings title) (begins : title.children = .text text :: rest) :
    side.value? settings layout content = some (inlineLiteral text) := by
  simp only [Side.value?, here, Option.bind_some, expression?_of_silent silent, inlineText?, begins,
    Option.map_some]

/-- Inline text contributes what it reads as; no other step leaves a trace. -/
theorem contribution_of_inlineText (host : Context) (here : side.of layout content = some title)
    (silent : Silent settings title) (begins : title.children = .text text :: rest) :
    contribution settings Expression.evaluate layout content host side =
      titleOfValue settings text := by
  -- The literal evaluates to the text with references for its quotes, which reads as the text.
  rw [contribution_of_evaluated (value?_of_inlineText here silent begins)
    (Expression.evaluate_inlineLiteral text _)]
  exact titleOfValue_congr settings (decode?_replace_apostrophe text)

/--
Inline text survives a pass with a pattern, on either side and in every context.

Unless a decimal reference in it is too long to be read, the side cannot fail: it contributes the
text decoded once, which is escaped again where titles are, and that is recorded if the other side
does not fail. The escaped title reads as the text does, and it is the text itself exactly if that
is in the form in which titles are written. Where a reference is too long, the pass fails for it.
-/
theorem inlineText_survives (merger : Merger) (host : Context)
    (asked : (pattern? settings layout content).isSome)
    (here : side.of layout content = some title) (silent : Silent settings title)
    (begins : title.children = .text text :: rest) :
    decode? (String.ofList (replaceAll ['\''] "&#39;".toList text.toList)) = decode? text ∧
    (¬ Overlong text.toList → ∃ plain kept,
      decode? text = some plain ∧
      kept = (if settings.escapeTitles then escapeTitle plain else plain) ∧
      contribution settings Expression.evaluate layout content host side =
        .ok (some (.text kept)) ∧
      (∀ other,
        contribution settings Expression.evaluate layout content host side.other = .ok other →
        ∃ element record,
          (run settings Expression.evaluate merger layout content host).answer =
            .ok (element, record) ∧
          record.get? side.key = some (some (.text kept))) ∧
      (settings.escapeTitles → decode? kept = decode? text ∧
        (kept = text ↔ Inert text.toList))) ∧
    (Overlong text.toList →
      contribution settings Expression.evaluate layout content host side =
        .error .overlongReference ∧
      ∀ answer,
        (run settings Expression.evaluate merger layout content host).answer ≠ .ok answer) := by
  have contributes := contribution_of_inlineText host here silent begins
  rw [← decode?_eq_none_iff]
  refine ⟨decode?_replace_apostrophe text, fun readable => ?_, fun unreadable => ?_⟩
  · -- A readable text is contributed, and recorded beside whatever the other side has.
    obtain ⟨plain, read⟩ := Option.ne_none_iff_exists'.mp readable
    rw [titleOfValue, read] at contributes
    refine ⟨plain, _, read, rfl, contributes, fun other second => ?_, fun escaping => ?_⟩
    · exact record_of_contributions merger asked contributes second
    · rw [if_pos escaping, decode?_escapeTitle, read]
      exact ⟨rfl, escapeTitle_decode?_iff read⟩
  · -- An overlong reference is the error of the side, and so of the pass.
    rw [titleOfValue, unreadable] at contributes
    exact ⟨contributes, run_of_failed_contribution merger asked contributes⟩

end Inline

/-- A title without attributes is silent. -/
theorem silent_inlineTitle (settings : Settings) (texts : List String) :
    Silent settings (inlineTitle texts) := rfl

/-- A quote behind an unfinished reference is read as a quote. -/
theorem inlineText_survives_quote :
    (pattern? {} (some (markedTitle "$CONTENT_TITLE" []))
      (some (inlineTitle ["a &amp'"]))).isSome ∧
    Silent {} (inlineTitle ["a &amp'"]) ∧
    ∃ kept, contribution {} Expression.evaluate (some (markedTitle "$CONTENT_TITLE" []))
        (some (inlineTitle ["a &amp'"])) {} .content = .ok (some (.text kept)) ∧
      decode? kept = some "a &'" := by
  -- The reference ends at the quote, although it has no semicolon.
  have read : decode? "a &amp'" = some "a &'" := by decide +kernel
  have readable : ¬ Overlong "a &amp'".toList := by
    rw [← decode?_eq_none_iff, read]
    exact Option.some_ne_none _
  have asked : (pattern? {} (some (markedTitle "$CONTENT_TITLE" []))
      (some (inlineTitle ["a &amp'"]))).isSome = true := by decide
  have silent := silent_inlineTitle {} ["a &amp'"]
  obtain ⟨-, survives, -⟩ := @inlineText_survives {} (some (markedTitle "$CONTENT_TITLE" []))
    (some (inlineTitle ["a &amp'"])) .content (inlineTitle ["a &amp'"]) "a &amp'" []
    Element.merge {} asked rfl silent rfl
  obtain ⟨plain, kept, -, -, contributes, -, escaped⟩ := survives readable
  exact ⟨asked, silent, kept, contributes, ((escaped rfl).1).trans read⟩

/--
A title that is not in the form in which titles are written is not recorded as it stands, and one
with an overlong reference makes the pass fail.
-/
theorem inlineText_changes :
    (∃ element record,
      (run {} Expression.evaluate Element.merge (some (markedTitle "$CONTENT_TITLE" []))
        (some (inlineTitle ["R&D"])) {}).answer = .ok (element, record) ∧
      record.get? Record.contentKey = some (some (.text "R&amp;D"))) ∧
    (run {} Expression.evaluate Element.merge (some (markedTitle "$CONTENT_TITLE" []))
      (some (inlineTitle [overlongText])) {}).answer = .error .overlongReference := by
  -- The first title is decoded as it stands, and only then its ampersand is escaped.
  constructor
  · have contributes : contribution {} Expression.evaluate (some (markedTitle "$CONTENT_TITLE" []))
        (some (inlineTitle ["R&D"])) {} .content = .ok (some (.text "R&amp;D")) :=
      (contribution_of_inlineText {} rfl (silent_inlineTitle {} _) rfl).trans (by decide +kernel)
    exact record_of_contributions Element.merge (by decide) contributes rfl
  · have asked : pattern? {} (some (markedTitle "$CONTENT_TITLE" []))
        (some (inlineTitle [overlongText])) = some "$CONTENT_TITLE" := by rfl
    have contributes : contribution {} Expression.evaluate (some (markedTitle "$CONTENT_TITLE" []))
        (some (inlineTitle [overlongText])) {} .content = .error .overlongReference := by
      refine (contribution_of_inlineText {} rfl (silent_inlineTitle {} _) rfl).trans ?_
      rw [titleOfValue, decode?_overlongText]
    rw [run_of_pattern _ _ _ asked, contributes]
    rfl

end Titling.Title
