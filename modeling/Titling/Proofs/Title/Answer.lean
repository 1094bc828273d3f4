import Mathlib.Control.Monad.Basic
import Titling.Proofs.Title.Directive
import Titling.Proofs.Title.InlineText

/-!
The answer of a pass, told from its two titles alone.

Each side has a value, or none. The value is evaluated in the context of the pass, and without one
the title counts that the page has registered for the side. The two titles make the composed one.
-/

namespace Titling.Title

open Titling.CharacterReference
open Titling.Markup

/-- A text as a quoted literal, with a reference in the place of each quote in it. -/
def quotedText (content : String) : String :=
  "'" ++ String.ofList (content.toList.flatMap fun char =>
    if char = '\'' then "&#39;".toList else [char]) ++ "'"

/--
Tells what the value of a side is, given its title: the text attribute if that says something, or
else the quoted literal of the text that the title begins with, or else none.
-/
inductive IsValue (settings : Settings) : Option Element → Option String → Prop
  | absent : IsValue settings none none
  | explicit {title : Element} {text : String}
    (given : title.get? settings.textAttribute = some text) (speaks : text ≠ "") :
    IsValue settings (some title) (some text)
  | inline {title : Element} {content : String} {rest : List Node}
    (silent : Silent settings title) (begins : title.children = .text content :: rest) :
    IsValue settings (some title) (some (quotedText content))
  | wordless {title : Element} (silent : Silent settings title)
    (begins : ∀ content rest, title.children ≠ .text content :: rest) :
    IsValue settings (some title) none

/-- A text attribute that says something is the expression of a title. -/
theorem expression?_of_explicit {settings : Settings} {title : Element} {text : String}
    (given : title.get? settings.textAttribute = some text) (speaks : text ≠ "") :
    expression? settings title = some text := by
  simp [expression?, given, speaks]

/-- The quoted literal of an inline text is what its quotes are replaced for. -/
theorem inlineLiteral_eq (content : String) : inlineLiteral content = quotedText content := by
  -- A replacement of single characters is made character by character.
  rw [inlineLiteral, Text.replaceAll_single, quotedText, ← String.toList_inj]
  simp

/-- The expression that a pass takes from a title is the value of the side, and no other is. -/
theorem isValue_iff {settings : Settings} {title : Option Element} {value : Option String} :
    IsValue settings title value ↔ title.bind (expression? settings) = value := by
  constructor
  · -- Each of the four cases is one in which the expression is known.
    rintro (_ | ⟨given, speaks⟩ | ⟨silent, begins⟩ | ⟨silent, begins⟩)
    · rfl
    · exact expression?_of_explicit given speaks
    · rw [Option.bind_some, expression?_of_silent silent, inlineText?, begins, Option.map_some,
        inlineLiteral_eq]
    · rw [Option.bind_some, expression?_of_silent silent, inlineText?]
      split
      · rename_i begun
        exact absurd begun (begins _ _)
      · rfl
  · rintro rfl
    -- Backwards, the title is silent or not, and a silent one begins with a text or does not.
    cases title with
    | none => exact .absent
    | some title =>
      rw [Option.bind_some]
      by_cases silent : Silent settings title
      · rw [expression?_of_silent silent, inlineText?]
        split
        · rename_i begins
          rw [Option.map_some, inlineLiteral_eq]
          exact .inline silent begins
        · rename_i begins
          exact .wordless silent begins
      · -- A title that is not silent has a text attribute, which says something.
        cases given : title.get? settings.textAttribute with
        | none => exact absurd (by rw [Silent, given]; rfl) silent
        | some text =>
          have speaks : text ≠ "" := by
            rintro rfl
            exact silent (by rw [Silent, given]; rfl)
          rw [expression?_of_explicit given speaks]
          exact .explicit given speaks

/-- The sources that a pass lays over the context of the page: one for each value. -/
def sourcesFor (settings : Settings) (contentValue layoutValue : Option String) : Layer :=
  let source (value : String) : Binding :=
    .source { text := some value, escape := settings.escapeTitles }
  (contentValue.map fun value => (contentName, source value)).toList ++
    (layoutValue.map fun value => (layoutName, source value)).toList

/-- The title that an expression makes: its value decoded once, and escaped if that is wanted. -/
def titleOfExpression (evaluator : Evaluator) (escape : Bool) (context : Context)
    (expression : String) : Except Error (Option Node) :=
  match evaluator expression context with
  | .error cause => .error (.ofFailure cause)
  | .ok answer =>
    match decode? answer with
    | none => .error .overlongReference
    | some plain => .ok (some (.text (if escape then escapeTitle plain else plain)))

/--
The title of a side, given its value: what that makes in the inner context, or else what the source
makes that the page has registered for the side.
-/
def sideTitle (settings : Settings) (evaluator : Evaluator) (host inner : Context)
    (name : String) : (value : Option String) → Except Error (Option Node)
  | some value => titleOfExpression evaluator settings.escapeTitles inner value
  | none =>
    match host.source? name with
    | none => .ok none
    | some source =>
      match source.text with
      | some expression => titleOfExpression evaluator source.escape inner expression
      | none => .ok source.model

/-- The title that both make by a pattern; one alone is taken as it is. -/
def composedBy (pattern : String) : (content layout : Option Node) → Node
  | some content, some layout => .fragment ((Segment.ofPattern pattern).flatMap fun
    | .literal text => [.text text]
    | .token .content => content.spread
    | .token .layout | .token .decorator => layout.spread)
  | some content, none => content
  | none, some layout => layout
  | none, none => .fragment []

/-- A title is composed by a pattern with both titles in the places of their tokens. -/
theorem compose_eq_composedBy (pattern : String) (content layout : Option Node) :
    compose (some pattern) content layout = composedBy pattern content layout := by
  -- Four cases, of which only the one with both titles asks for the pattern.
  cases content <;> cases layout <;> rfl

/-- The context of a pass is that of the page under the sources of the values. -/
theorem passContext_eq {settings : Settings} {layout content : Option Element}
    {contentValue layoutValue : Option String} (ofContent : IsValue settings content contentValue)
    (ofLayout : IsValue settings layout layoutValue) (host : Context) :
    passContext settings layout content host =
      host.push (sourcesFor settings contentValue layoutValue) := by
  have first := isValue_iff.mp ofContent
  have second := isValue_iff.mp ofLayout
  rw [passContext, sideSources, sourcesFor]
  simp only [Side.value?, Side.of, first, second, List.filterMap_cons, List.filterMap_nil,
    Side.name]
  cases contentValue <;> cases layoutValue <;> rfl

/-- A source with an expression resolves to the title that this makes. -/
theorem resolve_eq_titleOfExpression (evaluator : Evaluator) (context : Context)
    {source : Source} {expression : String} (written : source.text = some expression) :
    source.resolve evaluator context =
      titleOfExpression evaluator source.escape context expression := by
  cases evaluated : evaluator expression context with
  -- The expression fails, or its value is decoded; both sides make the same of it.
  | error cause =>
    simp only [resolve_of_unevaluated written evaluated, titleOfExpression, evaluated]
  | ok answer =>
    simp only [resolve_of_evaluated written evaluated, titleOfExpression, evaluated, evaluatedText]
    cases decode? answer <;> rfl

/-- What a side contributes is the title of its value, or of the source registered for it. -/
theorem contribution_eq {settings : Settings} {layout content : Option Element} {side : Side}
    {value : Option String} (own : IsValue settings (side.of layout content) value)
    (evaluator : Evaluator) (host : Context) :
    contribution settings evaluator layout content host side =
      sideTitle settings evaluator host (passContext settings layout content host) side.name
        value := by
  have known : side.value? settings layout content = value := isValue_iff.mp own
  cases value with
  | some expression =>
    cases evaluated : evaluator expression (passContext settings layout content host) with
    | error cause =>
      simp only [contribution_of_failed known evaluated, sideTitle, titleOfExpression, evaluated]
    | ok answer =>
      simp only [contribution_of_evaluated known evaluated, titleOfValue, sideTitle,
        titleOfExpression, evaluated]
      cases decode? answer <;> rfl
  | none =>
    rw [sideTitle, contribution, known]
    cases host.source? side.name with
    | none => rfl
    | some source =>
      -- The source that the page has registered is resolved, in the context of the pass.
      cases written : source.text with
      | none => simp [written, Source.resolve]
      | some expression => simp [written, resolve_eq_titleOfExpression evaluator _ written]

/--
The answer of a pass, whatever its titles, its context and its evaluator are.

Each title has one value, or none. If neither title has the directive, the answer is the merged
title with an empty record, and no expression is asked for its value. Otherwise the pattern is that
of the content title, or else that of the layout title. The content title and then the layout title
are made of their values in the context of the pass, and the first error is the answer. The composed
title stands in an element without attributes, and the record has the three titles and nothing else.
-/
theorem run_answer :
    (∀ (settings : Settings) (title : Option Element), ∃! value, IsValue settings title value) ∧
    ∀ (settings : Settings) (evaluator : Evaluator) (layout content : Option Element)
      (host : Context) (contentValue layoutValue : Option String),
      IsValue settings content contentValue → IsValue settings layout layoutValue →
      let inner := host.push (sourcesFor settings contentValue layoutValue)
      (run settings evaluator Element.merge layout content host).answer =
        match (content.bind (·.get? settings.directive)).or
          (layout.bind (·.get? settings.directive)) with
        | none => .ok (Element.merge layout content, {})
        | some pattern => do
          let contentTitle ← sideTitle settings evaluator host inner contentName contentValue
          let layoutTitle ← sideTitle settings evaluator host inner layoutName layoutValue
          let result := composedBy pattern contentTitle layoutTitle
          return (some (bareTitle result), passRecord contentTitle layoutTitle result) := by
  refine ⟨fun settings title => ?_, ?_⟩
  · exact ⟨_, isValue_iff.mpr rfl, fun value other => (isValue_iff.mp other).symm⟩
  · intro settings evaluator layout content host contentValue layoutValue ofContent ofLayout inner
    -- Each contribution is told from the value of its side, in the context made of both values.
    have first := @contribution_eq _ layout content .content _ ofContent evaluator host
    have second := @contribution_eq _ layout content .layout _ ofLayout evaluator host
    rw [passContext_eq ofContent ofLayout] at first second
    rw [← pattern?_eq_or]
    cases asked : pattern? settings layout content with
    | none => exact run_of_no_pattern evaluator host asked
    | some pattern =>
      rw [run_of_pattern evaluator Element.merge host asked, first, second]
      simp only [compose_eq_composedBy]
      rfl

/-- A content title with an empty text attribute, and a quote in its inline text. -/
def quotingContent : Element where
  tag := "title"
  attributes := [("th:text", "")]
  children := [.text "Bob's"]

/-- A layout title with a pattern, and a variable for its text. -/
def variableLayout : Element where
  tag := "title"
  attributes := [("layout:title-pattern", "$CONTENT_TITLE - $LAYOUT_TITLE"),
    ("th:text", "$\x7bsite\x7d")]

/-- The inline text counts beside an empty attribute, and both values are composed. -/
theorem run_answer_quoted :
    IsValue {} (some quotingContent) (some "'Bob&#39;s'") ∧
    IsValue {} (some variableLayout) (some "$\x7bsite\x7d") ∧
    (run {} Expression.evaluate Element.merge (some variableLayout) (some quotingContent)
      (.ofLayer [("site", .value (.text "A &amp; B"))])).answer =
        .ok (some (inlineTitle ["Bob&#39;s", " - ", "A &amp; B"]),
          passRecord (some (.text "Bob&#39;s")) (some (.text "A &amp; B"))
            (.fragment [.text "Bob&#39;s", .text " - ", .text "A &amp; B"])) := by
  have silent : Silent {} quotingContent := rfl
  have begins : quotingContent.children = [.text "Bob's"] := rfl
  have quoted : quotedText "Bob's" = "'Bob&#39;s'" := by decide +kernel
  -- The empty attribute says nothing, so the inline text is the value of the content title.
  have ofContent : IsValue {} (some quotingContent) (some "'Bob&#39;s'") :=
    quoted ▸ .inline silent begins
  have ofLayout : IsValue {} (some variableLayout) (some "$\x7bsite\x7d") :=
    .explicit (by decide) (by decide)
  obtain ⟨-, answers⟩ := run_answer
  refine ⟨ofContent, ofLayout, ?_⟩
  rw [answers {} Expression.evaluate _ _ _ _ _ ofContent ofLayout]
  decide +kernel

end Titling.Title
