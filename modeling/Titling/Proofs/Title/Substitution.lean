import Titling.Proofs.Markup.Run
import Titling.Proofs.Title.Pattern
import Titling.Title.Compose

/-! A composed title is its pattern with the titles in the places of all tokens at once. -/

namespace Titling.Title

open Titling.Markup

/-- The title that a token stands for, given those of the content and of the layout. -/
def Token.title (content layout : Node) : Token → Node
  | .content => content
  | .layout | .decorator => layout

/--
Tells that one text is another with something written in the place of every token, from left to
right. What is written is not read again, and every other character is kept.
-/
inductive Substituted (written : Token → List Char) : List Char → List Char → Prop
  | nil : Substituted written [] []
  | token (token : Token) {rest result : List Char} (later : Substituted written rest result) :
    Substituted written (token.text.toList ++ rest) (written token ++ result)
  | plain {char : Char} {rest result : List Char}
    (absent : ∀ token : Token, ¬ token.text.toList <+: char :: rest)
    (later : Substituted written rest result) :
    Substituted written (char :: rest) (char :: result)

namespace Segment

/-- What a segment becomes if something is written for tokens. -/
def written (written : Token → List Char) : Segment → List Char
  | .literal text => text.toList
  | .token mark => written mark

/-- What a segment reads as if tokens are titles. -/
def reading {α : Type} (read : Node → List α) (content layout : Node) : Segment → List α
  | .literal text => read (.text text)
  | .token mark => read (mark.title content layout)

/-- The nodes of a segment read as the text or the title that the segment stands for. -/
theorem flatMap_nodes {α : Type} {read : Node → List α} (runwise : Node.IsRunwise read)
    (content layout : Node) (segment : Segment) :
    (segment.nodes content layout).flatMap read = segment.reading read content layout := by
  -- Both tokens of the layout stand for the same title.
  cases segment with
  | literal text => simp [nodes, reading]
  | token mark => cases mark <;> exact runwise.flatMap_spread _

end Segment

/-- A text is substituted in one way, which its segments show. -/
theorem substituted_iff (written : Token → List Char) (text result : List Char) :
    Substituted written text result ↔
      (Segment.ofChars text).flatMap (Segment.written written) = result := by
  constructor
  · intro substituted
    -- Induct over the substitution: each of its steps is one that the scan takes.
    induction substituted with
    | nil => rfl
    | token token later ih =>
      rw [Segment.ofChars_text_append, List.flatMap_cons, ih]
      rfl
    | plain absent later ih =>
      rw [Segment.ofChars_cons absent, Segment.flatMap_prepend fun _ => rfl, ih]
  · rintro rfl
    -- Induct over the scan: a segment is written as soon as it is found.
    induction text using Token.scan with
    | nil => exact .nil
    | token token rest ih =>
      rw [Segment.ofChars_text_append, List.flatMap_cons]
      exact .token token ih
    | plain char rest absent ih =>
      rw [Segment.ofChars_cons absent, Segment.flatMap_prepend fun _ => rfl]
      exact .plain absent ih

/-- A composed title reads as its segments do, one after another. -/
theorem read_compose {α : Type} {read : Node → List α} (runwise : Node.IsRunwise read)
    (pattern : String) (content layout : Node) :
    read (compose (some pattern) (some content) (some layout)) =
      (Segment.ofPattern pattern).flatMap (Segment.reading read content layout) := by
  -- Splicing a title takes away a fragment, and the reading takes one for its children anyway.
  rw [compose, runwise, List.flatMap_assoc]
  simp only [Segment.flatMap_nodes runwise]

/-- A composed title is a substitution in its pattern for every reading in which texts are kept. -/
theorem substituted_compose_iff {read : Node → String}
    (runwise : Node.IsRunwise fun node => (read node).toList)
    (plain : ∀ text, read (.text text) = text) (pattern : String) (content layout : Node)
    (result : String) :
    Substituted (fun token => (read (token.title content layout)).toList) pattern.toList
        result.toList ↔
      read (compose (some pattern) (some content) (some layout)) = result := by
  -- A literal reads as itself, so reading the segments is writing titles for the tokens.
  have same : Segment.written (fun token => (read (token.title content layout)).toList) =
      Segment.reading (fun node => (read node).toList) content layout := by
    funext segment
    cases segment with
    | literal text => simp [Segment.written, Segment.reading, plain]
    | token token => rfl
  have composed := read_compose runwise pattern content layout
  rw [Segment.ofPattern] at composed
  rw [substituted_iff, same, ← String.toList_inj, composed]
  rfl

/--
Composing a title substitutes both titles for the tokens of the pattern at once, in its markup and
in its text.

The title reads as the pattern with every content token replaced by what the content title reads as,
and every layout or decorator token by what the layout title reads as; no other text does. No token
is looked for in a title, or where one meets the pattern. The title is made of one text for each
literal segment, and of the texts and elements that the two titles are made of, in their order; only
the fragments around them are gone.
-/
theorem compose_substitutes (pattern : String) (content layout : Node) :
    (∀ markup : String,
      Substituted (fun token => (token.title content layout).markup.toList) pattern.toList
          markup.toList ↔
        (compose (some pattern) (some content) (some layout)).markup = markup) ∧
    (∀ text : String,
      Substituted (fun token => (token.title content layout).plainText.toList) pattern.toList
          text.toList ↔
        (compose (some pattern) (some content) (some layout)).plainText = text) ∧
    (compose (some pattern) (some content) (some layout)).unwrapped =
      (Segment.ofPattern pattern).flatMap fun
        | .literal text => [.text text]
        | .token token => (token.title content layout).unwrapped := by
  -- All three are readings, of which each takes a fragment for its children.
  refine ⟨fun _ => ?_, fun _ => ?_, ?_⟩
  · exact substituted_compose_iff Node.isRunwise_markup (fun _ => rfl) pattern content layout _
  · exact substituted_compose_iff Node.isRunwise_plainText (fun _ => rfl) pattern content layout _
  · exact read_compose Node.isRunwise_unwrapped pattern content layout

/-- A token that an inserted title and the pattern make up together is no token. -/
example :
    (compose (some "$CONTENT_TITLE_TITLE") (some (.text "$LAYOUT")) (some (.text "Site"))).markup =
      "$LAYOUT_TITLE" := by
  decide +kernel

end Titling.Title
