import Titling.Proofs.Text.Renaming
import Titling.Proofs.Title.Pattern
import Titling.Proofs.Title.Session

/-! Patterns in which the layout token stands for the deprecated one: they make the same titles. -/

namespace Titling.Title

open Titling.Markup
open Titling.Message
open Titling.Text

/-- A pattern with the layout token written in the place of each deprecated one. -/
def renewed (pattern : String) : String :=
  String.ofList
    (replaceAll Token.decorator.text.toList Token.layout.text.toList pattern.toList)

/-- The token to be used for a token: the layout token for the deprecated one. -/
def Token.renewed (token : Token) : Token :=
  if token = .decorator then .layout else token

namespace Segment

/-- A segment with the layout token in the place of the deprecated one. -/
def renewed : Segment → Segment
  | .literal text => .literal text
  | .token mark => .token mark.renewed

/-- Renewing the tokens between characters renews the segments, and leaves literals alone. -/
theorem gather_map_renewed (reversed : List Char) (pieces : List (Piece Token)) :
    gather reversed (pieces.map (Piece.map Token.renewed)) =
      (gather reversed pieces).map renewed := by
  -- The characters that make up a literal are gathered as before.
  have literal : ∀ reversed, (literalOf reversed).map renewed = literalOf reversed := by
    intro reversed
    cases reversed <;> rfl
  induction pieces generalizing reversed with
  | nil => exact (literal reversed).symm
  | cons piece rest ih =>
    cases piece with
    | plain char => exact ih (char :: reversed)
    | found mark =>
      simp only [List.map_cons, Piece.map, gather, List.map_append, literal, ih]
      rfl

/-- The segments of a renewed pattern are those of the pattern, each of them renewed. -/
theorem ofPattern_renewed (pattern : String) :
    ofPattern (Title.renewed pattern) = (ofPattern pattern).map renewed := by
  -- The scan comes upon the same occurrences, of which the deprecated ones have been renamed.
  have scanned : Piece.split Token.match? (Title.renewed pattern).toList =
      (Piece.split Token.match? pattern.toList).map (Piece.map Token.renewed) := by
    rw [Title.renewed, String.toList_ofList]
    exact Token.finds.split_replaceAll Token.isMarked .decorator .layout pattern.toList
  rw [ofPattern, scanned, gather_map_renewed, ofPattern]

/-- A renewed segment stands for the same nodes, as both tokens stand for the layout title. -/
theorem nodes_renewed (content layout : Node) (segment : Segment) :
    segment.renewed.nodes content layout = segment.nodes content layout := by
  cases segment with
  | literal text => rfl
  | token mark => cases mark <;> rfl

/-- No renewed segment is the deprecated token. -/
theorem renewed_ne_decorator (segment : Segment) : segment.renewed ≠ .token .decorator := by
  cases segment with
  | literal text => simp [renewed]
  | token mark => cases mark <;> decide

end Segment

/-- A renewed pattern does not mention the deprecated token. -/
theorem mentionsDeprecated_renewed (pattern : String) :
    mentionsDeprecated (renewed pattern) = false := by
  -- A mention would be a segment with the deprecated token, and all segments were renewed.
  rw [Bool.eq_false_iff, ne_eq, mentionsDeprecated_iff, Segment.ofPattern_renewed, List.mem_map]
  rintro ⟨segment, -, same⟩
  exact segment.renewed_ne_decorator same

/-- A renewed pattern makes the title that the pattern makes, with whatever titles there are. -/
theorem compose_renewed (pattern : String) (content layout : Option Node) :
    compose (some (renewed pattern)) content layout = compose (some pattern) content layout := by
  match content, layout with
  | some content, some layout =>
    simp only [compose, Segment.ofPattern_renewed, List.flatMap_map, Segment.nodes_renewed]
  -- Without both titles the pattern does not count.
  | some content, none => rfl
  | none, some layout => rfl
  | none, none => rfl

/-- Composing a title with a renewed pattern gives no notice. -/
theorem composeNotices_renewed (pattern : String) :
    composeNotices (some (renewed pattern)) = [] := by
  have quiet : asksForNotice (some (renewed pattern)) = false := by
    rw [asksForNotice, Option.map_some, Option.getD_some, mentionsDeprecated_renewed]
  simp [composeNotices, quiet]

/-- In every session a renewed pattern makes its title without a warning, and nothing is noted. -/
theorem Session.perform_renewed (bus : Bus) (session : Session) (pattern : String)
    (content layout : Option Node) :
    session.perform bus (.compose (some (Title.renewed pattern)) content layout) =
      (.ok (.composed (compose (some pattern) content layout), []), session) := by
  -- The task gives no notice, so that nothing is announced or noted.
  have performed : (Task.compose (some (Title.renewed pattern)) content layout).perform =
      (.composed (compose (some pattern) content layout), []) := by
    rw [Task.perform, compose_renewed, composeNotices_renewed]
  rw [perform_of_quiet performed]
  rfl

/--
Writing the layout token for the deprecated one is safe.

The new pattern is split as the old one, with the same literals and with a layout token for each
deprecated one, and every segment stands for the same nodes. The title is the same, whichever titles
are there, and in no session does making it send a warning, or leave anything behind.
-/
theorem renewing_is_safe (pattern : String) :
    Segment.ofPattern (renewed pattern) = (Segment.ofPattern pattern).map Segment.renewed ∧
    (∀ content layout : Node,
      (Segment.ofPattern (renewed pattern)).map (Segment.nodes content layout) =
        (Segment.ofPattern pattern).map (Segment.nodes content layout)) ∧
    (∀ content layout : Option Node,
      compose (some (renewed pattern)) content layout = compose (some pattern) content layout) ∧
    mentionsDeprecated (renewed pattern) = false ∧
    (∀ (bus : Bus) (session : Session) (content layout : Option Node),
      session.perform bus (.compose (some (renewed pattern)) content layout) =
        (.ok (.composed (compose (some pattern) content layout), []), session)) := by
  refine ⟨Segment.ofPattern_renewed pattern, fun content layout => ?_, compose_renewed pattern,
    mentionsDeprecated_renewed pattern, fun bus session content layout =>
      session.perform_renewed bus pattern content layout⟩
  rw [Segment.ofPattern_renewed, List.map_map]
  exact List.map_congr_left fun segment _ => segment.nodes_renewed content layout

/-- A dollar sign in front of a token, and a token that is broken off, are kept as they are. -/
example : renewed "$$DECORATOR_TITLE$DECORATOR_TITL" = "$$LAYOUT_TITLE$DECORATOR_TITL" := by
  cbv

end Titling.Title
