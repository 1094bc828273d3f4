import Titling.Proofs.CharacterReference.Overlong
import Titling.Proofs.Markup.Brackets
import Titling.Proofs.Title.Directive
import Titling.Proofs.Title.Pass

/-! Values of titles bring no tags: all of them are those of the title and of its pattern. -/

namespace Titling.Title

open Titling.CharacterReference
open Titling.Markup

/-- The angle brackets in the literal parts of a pattern. -/
def literalBrackets (segments : List Segment) : List Char :=
  segments.flatMap fun
    | .literal text => brackets text
    | .token _ => []

/-- Tells that a title, if there is one, is a text without markup of its own. -/
def InertTitle (title : Option Node) : Prop :=
  ∀ node, title = some node → ∃ text, node = .text text ∧ Inert text.toList

/-- Inert titles in the places of tokens add no brackets to those of the literal parts. -/
theorem brackets_segments {content layout : String} (first : Inert content.toList)
    (second : Inert layout.toList) (segments : List Segment) :
    brackets (Node.markupAll
        (segments.flatMap (Segment.nodes (.text content) (.text layout)))) =
      literalBrackets segments := by
  -- Induct over the segments, which are written one behind the other.
  induction segments with
  | nil => rfl
  | cons segment rest ih =>
    rw [List.flatMap_cons, Node.markupAll_append, brackets_append, ih]
    cases segment with
    | literal text => simp [Segment.nodes, Node.markupAll, Node.markup, literalBrackets]
    | token token =>
      cases token <;>
        simp [Segment.nodes, Node.spread, Node.markupAll, Node.markup, literalBrackets,
          brackets_of_inert, first, second]

/-- The brackets of a title element are those of its tags and of its body. -/
theorem brackets_bareTitle (result : Node) :
    brackets (bareTitle result).markup =
      brackets "<title>" ++ brackets (Node.markupAll result.spread) ++ brackets "</title>" := by
  have opening : startTag "title" [] = "<title>" := by decide
  have ending : endTag "title" = "</title>" := by decide
  rw [Element.markup, Element.node, Node.markup, brackets_append, brackets_append]
  simp only [bareTitle, opening, ending]

/-- Of a title composed of inert titles only the tags and the literal parts have brackets. -/
theorem brackets_compose (pattern : String) {content layout : Option Node}
    (first : InertTitle content) (second : InertTitle layout) :
    brackets (bareTitle (compose (some pattern) content layout)).markup =
      brackets "<title>" ++
        (if content.isSome && layout.isSome then literalBrackets (Segment.ofPattern pattern)
          else []) ++
        brackets "</title>" := by
  -- The tags are the same on both sides, so only the body is compared.
  rw [brackets_bareTitle]
  congr 2
  -- A title on its own is the whole body; the pattern counts only where both are there.
  cases content with
  | none =>
    cases layout with
    | none => rfl
    | some layout =>
      obtain ⟨text, rfl, inert⟩ := second layout rfl
      simp [compose, Node.spread, Node.markupAll, Node.markup, brackets_of_inert inert]
  | some content =>
    obtain ⟨text, rfl, inert⟩ := first content rfl
    cases layout with
    | none => simp [compose, Node.spread, Node.markupAll, Node.markup, brackets_of_inert inert]
    | some layout =>
      obtain ⟨other, rfl, harmless⟩ := second layout rfl
      simp [compose, Node.spread, brackets_segments inert harmless]

/--
Tells that the titles of a pass with a pattern come from values, and are escaped.

A side without a value contributes nothing, so no finished markup of the page stands in for it.
-/
structure ValuesOnly (settings : Settings) (evaluator : Evaluator) (layout content : Option Element)
    (host : Context) (pattern : String) : Prop where
  escaping : settings.escapeTitles = true
  asked : pattern? settings layout content = some pattern
  sides : ∀ side : Side, (side.value? settings layout content).isSome ∨
    contribution settings evaluator layout content host side = .ok none

/-- Tells whether both sides have a value. -/
def bothPresent (settings : Settings) (layout content : Option Element) : Bool :=
  (Side.content.value? settings layout content).isSome &&
    (Side.layout.value? settings layout content).isSome

section Values

variable {settings : Settings} {evaluator : Evaluator} {layout content : Option Element}
  {host : Context} {pattern : String}

/-- A side contributes an inert title if it has a value, and none otherwise. -/
theorem ValuesOnly.contribution (values : ValuesOnly settings evaluator layout content host pattern)
    {side : Side} {title : Option Node}
    (contributes : Title.contribution settings evaluator layout content host side = .ok title) :
    InertTitle title ∧ title.isSome = (side.value? settings layout content).isSome := by
  by_cases own : (side.value? settings layout content).isSome = true
  · -- A value has been escaped on the way to a title.
    obtain ⟨plain, rfl⟩ := contribution_of_value values.escaping own contributes
    refine ⟨fun node same => ⟨_, (Option.some.inj same).symm, inert_escapeTitle plain⟩, ?_⟩
    rw [own, Option.isSome_some]
  · -- A side without a value contributes nothing, and nothing is inert.
    have nothing := (values.sides side).resolve_left own
    rw [contributes, Except.ok.injEq] at nothing
    subst nothing
    refine ⟨fun node same => by simp at same, ?_⟩
    rw [Bool.eq_false_iff.mpr own, Option.isSome_none]

/-- A pass over values answers a title whose brackets no value decides about. -/
theorem ValuesOnly.brackets_run
    (values : ValuesOnly settings evaluator layout content host pattern) {merger : Merger}
    {element : Option Element} {record : Record}
    (answered : (run settings evaluator merger layout content host).answer =
      .ok (element, record)) :
    ∃ title, element = some title ∧
      brackets title.markup =
        brackets "<title>" ++
          (if bothPresent settings layout content then
            literalBrackets (Segment.ofPattern pattern) else []) ++
          brackets "</title>" := by
  -- An answer was composed of two contributions, of which it is known that they are inert.
  obtain ⟨contentTitle, layoutTitle, first, second, same⟩ :=
    contributions_of_run values.asked answered
  obtain ⟨contentInert, contentPresent⟩ := values.contribution first
  obtain ⟨layoutInert, layoutPresent⟩ := values.contribution second
  refine ⟨_, (Prod.mk.inj same).1, ?_⟩
  rw [brackets_compose pattern contentInert layoutInert, contentPresent, layoutPresent,
    bothPresent]

end Values

/-- What a source with an expression resolves to, where titles are escaped. -/
theorem resolve_of_value {evaluator : Evaluator} {context : Context} {source : Source}
    {expression value : String} (written : source.text = some expression)
    (escaping : source.escape = true) (evaluated : evaluator expression context = .ok value) :
    source.resolve evaluator context =
      match decode? value with
      | some plain => .ok (some (.text (escapeTitle plain)))
      | none => .error .overlongReference := by
  rw [resolve_of_evaluated written evaluated, evaluatedText, escaping]
  -- The value is decoded, or it has an overlong reference and cannot be.
  cases decode? value <;> rfl

/--
No value of a title brings markup with it, whatever the evaluator is and whatever it answers.

A value becomes a text without brackets and quotes in which every ampersand begins one of the forms
of a title; only one with an overlong reference becomes no title, but an error. So the brackets of
the title that a pass answers are those of its tags and, if both titles are there, of the literal
parts of the pattern. They are the same in two passes with the same pattern and the same sides.
-/
theorem values_bring_no_markup :
    (∀ (evaluator : Evaluator) (context : Context) (source : Source) (expression value : String),
      source.text = some expression → source.escape = true →
      evaluator expression context = .ok value →
      (¬ Overlong value.toList → ∃ kept,
        source.resolve evaluator context = .ok (some (.text kept)) ∧ Inert kept.toList) ∧
      (Overlong value.toList →
        source.resolve evaluator context = .error .overlongReference)) ∧
    (∀ (settings : Settings) (evaluator : Evaluator) (merger : Merger)
        (layout content : Option Element) (host : Context) (pattern : String)
        (element : Option Element) (record : Record),
      ValuesOnly settings evaluator layout content host pattern →
      (run settings evaluator merger layout content host).answer = .ok (element, record) →
      ∃ title, element = some title ∧
        brackets title.markup =
          brackets "<title>" ++
            (if bothPresent settings layout content then
              literalBrackets (Segment.ofPattern pattern) else []) ++
            brackets "</title>") ∧
    (∀ (settings settings' : Settings) (evaluator evaluator' : Evaluator)
        (merger merger' : Merger) (layout layout' content content' : Option Element)
        (host host' : Context) (pattern : String) (title title' : Element)
        (record record' : Record),
      ValuesOnly settings evaluator layout content host pattern →
      ValuesOnly settings' evaluator' layout' content' host' pattern →
      (∀ side : Side, (side.value? settings layout content).isSome =
        (side.value? settings' layout' content').isSome) →
      (run settings evaluator merger layout content host).answer = .ok (some title, record) →
      (run settings' evaluator' merger' layout' content' host').answer =
        .ok (some title', record') →
      brackets title.markup = brackets title'.markup) := by
  refine ⟨?_, ?_, ?_⟩
  · intro evaluator context source expression value written escaping evaluated
    -- A readable value is escaped as a whole before it becomes a text.
    rw [resolve_of_value written escaping evaluated, ← decode?_eq_none_iff]
    refine ⟨fun readable => ?_, fun unreadable => by rw [unreadable]⟩
    obtain ⟨plain, read⟩ := Option.ne_none_iff_exists'.mp readable
    rw [read]
    exact ⟨_, rfl, inert_escapeTitle plain⟩
  · intro settings evaluator merger layout content host pattern element record values answered
    exact values.brackets_run answered
  · intro settings settings' evaluator evaluator' merger merger' layout layout' content content'
      host host' pattern title title' record record' values values' sides answered answered'
    -- Both passes are described by the pattern and by which sides have a value.
    obtain ⟨_, same, shown⟩ := values.brackets_run answered
    obtain ⟨_, same', shown'⟩ := values'.brackets_run answered'
    rw [Option.some.inj same, Option.some.inj same', shown, shown', bothPresent, bothPresent,
      sides, sides]

/-- An evaluator that answers markup to everything. -/
def scriptEvaluator : Evaluator :=
  fun _ _ => .ok "<script>"

/-- Where two values are tags, the only brackets beside those of the title are in the pattern. -/
theorem values_bring_no_markup_script :
    (∃ kept, ({ text := some "x" } : Source).resolve scriptEvaluator {} = .ok (some (.text kept)) ∧
      Inert kept.toList) ∧
    (∃ title record,
      (run {} scriptEvaluator Element.merge (some (markedTitle "$LAYOUT_TITLE > " ["Site"]))
        (some (inlineTitle ["Home"])) {}).answer = .ok (some title, record) ∧
      brackets title.markup = ['<', '>', '>', '<', '>'] ∧
      brackets title.markup = brackets (inlineTitle ["Site", " > "]).markup) := by
  obtain ⟨resolved, passed, compared⟩ := values_bring_no_markup
  have script : ValuesOnly {} scriptEvaluator (some (markedTitle "$LAYOUT_TITLE > " ["Site"]))
      (some (inlineTitle ["Home"])) {} "$LAYOUT_TITLE > " :=
    ⟨rfl, rfl, fun side => .inl (by cases side <;> rfl)⟩
  have quoted : ValuesOnly {} Expression.evaluate
      (some (markedTitle "$LAYOUT_TITLE > " ["Site"])) (some (inlineTitle ["Home"])) {}
      "$LAYOUT_TITLE > " :=
    ⟨rfl, rfl, fun side => .inl (by cases side <;> rfl)⟩
  -- The two answers differ in their texts, but not in the pattern or in which sides there are.
  have first : (run {} scriptEvaluator Element.merge
      (some (markedTitle "$LAYOUT_TITLE > " ["Site"])) (some (inlineTitle ["Home"])) {}).answer =
        .ok (some (inlineTitle ["&lt;script&gt;", " > "]),
          passRecord (some (.text "&lt;script&gt;")) (some (.text "&lt;script&gt;"))
            (.fragment [.text "&lt;script&gt;", .text " > "])) := by
    decide +kernel
  have second : (run {} Expression.evaluate Element.merge
      (some (markedTitle "$LAYOUT_TITLE > " ["Site"])) (some (inlineTitle ["Home"])) {}).answer =
        .ok (some (inlineTitle ["Site", " > "]),
          passRecord (some (.text "Home")) (some (.text "Site"))
            (.fragment [.text "Site", .text " > "])) := by
    decide +kernel
  have readable : ¬ Overlong "<script>".toList := by
    rw [← decode?_eq_none_iff]
    decide +kernel
  refine ⟨(resolved _ _ _ "x" "<script>" rfl rfl rfl).1 readable, _, _, first, ?_, ?_⟩
  · obtain ⟨title, same, shown⟩ := passed _ _ _ _ _ _ _ _ _ script first
    rw [Option.some.inj same, shown]
    decide +kernel
  · exact compared _ _ _ _ _ _ _ _ _ _ _ _ _ _ _ _ _ script quoted (fun _ => rfl) first second

/-- A value with an overlong reference makes no title at all. -/
theorem overlong_value_fails :
    ({ text := some "x" } : Source).resolve (fun _ _ => .ok overlongText) {} =
      .error .overlongReference := by
  rw [resolve_of_value rfl rfl rfl, decode?_overlongText]

end Titling.Title
