import Titling.Markup.Node
import Titling.Title.Pattern

/-! The title of a page, made from a pattern and the titles of its layout and its content. -/

namespace Titling.Title

open Titling.Markup

/-- The nodes that a segment contributes, given the titles that tokens stand for. -/
def Segment.nodes (content layout : Node) : Segment → List Node
  -- A text stands for itself, and a title is put in without the fragment around it.
  | .literal text => [.text text]
  | .token .content => content.spread
  | .token .layout => layout.spread
  | .token .decorator => layout.spread

/--
The composed title. The pattern counts only if both titles are there; otherwise the content title,
then the layout title, is taken as it is, and without any title an empty run is the answer.
-/
def compose (pattern : Option String) (content layout : Option Node) : Node :=
  match content, layout, pattern with
  -- Each segment contributes in its place, so no inserted title is read for tokens.
  | some content, some layout, some pattern =>
    .fragment ((Segment.ofPattern pattern).flatMap (Segment.nodes content layout))
  | some content, _, _ => content
  | none, some layout, _ => layout
  | none, none, _ => .fragment []

/-- Tells whether composing a title asks for the notice about the deprecated token. -/
def asksForNotice (pattern : Option String) : Bool :=
  (pattern.map mentionsDeprecated).getD false

end Titling.Title
