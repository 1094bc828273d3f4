import Mathlib.Control.Monad.Basic
import Titling.Proofs.Context
import Titling.Proofs.Title.Directive
import Titling.Proofs.Title.Pass
import Titling.Proofs.Title.Variables

/-! What a pass can see of its page: the variables that it evaluates, and the titles it lacks. -/

namespace Titling.Title

open Titling.Markup

/-- The expression evaluated for a side: its own, or else that of the title registered for it. -/
def Side.evaluated? (settings : Settings) (layout content : Option Element) (host : Context)
    (side : Side) : Option String :=
  (side.value? settings layout content).or ((host.source? side.name).bind Source.text)

/-- The expressions that a pass evaluates; the one of the layout title comes second. -/
def evaluated (settings : Settings) (layout content : Option Element) (host : Context) :
    List String :=
  if (pattern? settings layout content).isSome then
    (Side.content.evaluated? settings layout content host).toList ++
      match contribution settings Expression.evaluate layout content host .content with
      | .ok _ => (Side.layout.evaluated? settings layout content host).toList
      -- Behind a content title that fails, nothing is evaluated.
      | .error _ => []
  else []

/--
Tells that two contexts look alike to a pass: they agree on the variables of the expressions that it
evaluates, and on the titles registered for the sides without a value.
-/
structure SeenAlike (settings : Settings) (layout content : Option Element)
    (first second : Context) : Prop where
  referred : ∀ expression ∈ evaluated settings layout content first,
    ∀ name ∈ Expression.references expression, first.string? name = second.string? name
  sources : ∀ side : Side, side.value? settings layout content = none →
    first.source? side.name = second.source? side.name

/-- The name of a title is no variable: it has a colon in it. -/
theorem side_name_not_mem_references (side : Side) (expression : String) :
    side.name ∉ Expression.references expression := by
  intro known
  -- A name in an expression is made of letters, digits and dots.
  have colon : ':' ∈ side.name.toList := by cases side <;> decide
  have inside := Expression.isNameChar_of_mem_references known ':' colon
  exact absurd inside (by decide)

/-- The sources that an element keeps are known by the names of titles and by no other. -/
theorem deferredSources_get? {name : String} (other : ∀ side : Side, name ≠ side.name)
    (settings : Settings) (deferred : Element) :
    (deferredSources settings deferred).get? name = none := by
  have content : contentName ≠ name := Ne.symm (other .content)
  have layout : layoutName ≠ name := Ne.symm (other .layout)
  unfold deferredSources
  cases first : deferred.get? contentAttribute <;>
    cases second : deferred.get? layoutAttribute <;>
    simp [first, second, Dictionary.get?, content, layout]

/-- The sources that an element keeps change no expression's value. -/
theorem evaluate_push_deferredSources (settings : Settings) (deferred : Element) (host : Context)
    (expression : String) :
    Expression.evaluate expression (host.push (deferredSources settings deferred)) =
      Expression.evaluate expression host := by
  -- What a pass adds is registered under names with a colon, which no expression refers to.
  apply Expression.evaluate_congr
  intro name known
  have unknown : (deferredSources settings deferred).get? name = none := by
    apply deferredSources_get?
    rintro side rfl
    exact side_name_not_mem_references side expression known
  simp [Context.string?_push, unknown]

section Seen

variable {settings : Settings} {layout content : Option Element} {first second : Context}

/-- In the context of a pass, expressions have the values that they have in the page. -/
theorem evaluate_passContext (host : Context) (expression : String) :
    Expression.evaluate expression (passContext settings layout content host) =
      Expression.evaluate expression host := by
  -- The context of a pass is that of its placeholder, with the same sources on top.
  rw [passContext, ← deferredSources_placeholder settings "" layout content]
  exact evaluate_push_deferredSources settings _ host expression

/-- A side contributes alike in contexts that agree on what is looked up for it. -/
theorem contribution_congr {side : Side}
    (agree : ∀ expression, side.evaluated? settings layout content first = some expression →
      ∀ name ∈ Expression.references expression, first.string? name = second.string? name)
    (source : side.value? settings layout content = none →
      first.source? side.name = second.source? side.name) :
    contribution settings Expression.evaluate layout content first side =
      contribution settings Expression.evaluate layout content second side := by
  have same : ∀ expression, side.evaluated? settings layout content first = some expression →
      Expression.evaluate expression (passContext settings layout content first) =
        Expression.evaluate expression (passContext settings layout content second) := by
    intro expression asked
    rw [evaluate_passContext, evaluate_passContext]
    exact Expression.evaluate_congr (agree expression asked)
  -- The side has an expression of its own, or it is registered by the page.
  cases own : side.value? settings layout content with
  | some expression =>
    simp only [contribution, own, same expression (by simp [Side.evaluated?, own])]
  | none =>
    simp only [contribution, own, ← source own]
    cases known : first.source? side.name with
    | none => rfl
    | some registered =>
      -- A registered title has an expression of its own, or none and then only its model.
      apply resolve_congr
      intro expression written
      exact same expression (by simp [Side.evaluated?, own, known, written])

/-- Contexts that look alike to a pass make no difference to it. -/
theorem SeenAlike.run_eq (alike : SeenAlike settings layout content first second) :
    run settings Expression.evaluate Element.merge layout content first =
      run settings Expression.evaluate Element.merge layout content second := by
  -- Without a pattern no expression is evaluated, and the context has no part in the answer.
  cases asked : pattern? settings layout content with
  | none =>
    rw [run_of_merged (settled_of_no_pattern asked), run_of_merged (settled_of_no_pattern asked)]
  | some pattern =>
    have inner : contribution settings Expression.evaluate layout content first .content =
        contribution settings Expression.evaluate layout content second .content := by
      refine contribution_congr (fun expression known => ?_) (alike.sources .content)
      exact alike.referred expression (by simp [evaluated, asked, known])
    have outer : ∀ title,
        contribution settings Expression.evaluate layout content first .content = .ok title →
        contribution settings Expression.evaluate layout content first .layout =
          contribution settings Expression.evaluate layout content second .layout := by
      intro title contributes
      refine contribution_congr (fun expression known => ?_) (alike.sources .layout)
      exact alike.referred expression (by simp [evaluated, asked, known, contributes])
    simp only [← registered_passContext] at inner outer
    have filled := @fill_congr settings Expression.evaluate
      (placeholder settings pattern layout content) (passContext settings layout content first)
      (passContext settings layout content second) inner outer
    rw [run_of_deferred (deferred_of_pattern Element.merge asked),
      run_of_deferred (deferred_of_pattern Element.merge asked), deferredSources_placeholder]
    simp only [passContext] at filled
    rw [filled]

/-- What a page binds to the name of a side that has a value is not seen. -/
theorem SeenAlike.of_binding? {side : Side} (own : (side.value? settings layout content).isSome)
    (same : ∀ name, name ≠ side.name → first.binding? name = second.binding? name) :
    SeenAlike settings layout content first second where
  referred := by
    -- The name of a side is no variable, so what is bound to it does not matter here.
    intro expression _ name known
    have other : name ≠ side.name := by
      rintro rfl
      exact side_name_not_mem_references side expression known
    rw [Context.string?, Context.string?, same name other]
  sources := by
    -- A side without a value is the other one, and its name is bound alike.
    intro lacking none
    have other : lacking ≠ side := by
      rintro rfl
      simp [none] at own
    have names : lacking.name ≠ side.name := by
      revert other
      cases lacking <;> cases side <;> simp [Side.name, contentName, layoutName]
    rw [Context.source?, Context.source?, same _ names]

end Seen

/--
A pass sees nothing of its page but the variables in the expressions that it evaluates, and the
titles registered for the sides that have no value.

Contexts that agree on these give the same outcome, answer or error. The sources that a pass adds to
a context change no expression's value. What is bound to the name of a side that has a value, title
or not, makes no difference.
-/
theorem run_sees_only :
    (∀ (settings : Settings) (layout content : Option Element) (first second : Context),
      SeenAlike settings layout content first second →
      run settings Expression.evaluate Element.merge layout content first =
        run settings Expression.evaluate Element.merge layout content second) ∧
    (∀ (settings : Settings) (deferred : Element) (host : Context) (expression : String),
      Expression.evaluate expression (host.push (deferredSources settings deferred)) =
        Expression.evaluate expression host) ∧
    (∀ (settings : Settings) (layout content : Option Element) (first second : Context)
        (side : Side),
      (side.value? settings layout content).isSome →
      (∀ name, name ≠ side.name → first.binding? name = second.binding? name) →
      run settings Expression.evaluate Element.merge layout content first =
        run settings Expression.evaluate Element.merge layout content second) := by
  refine ⟨?_, evaluate_push_deferredSources, ?_⟩
  · intro settings layout content first second alike
    exact alike.run_eq
  · intro settings layout content first second side own same
    exact (SeenAlike.of_binding? own same).run_eq

/-- A layout title whose expression has two variables. -/
def greetingLayout : Element where
  tag := "title"
  attributes := [("layout:title-pattern", "$LAYOUT_TITLE: $CONTENT_TITLE"),
    ("th:text", "|$\x7bsite\x7d no. $\x7bcount\x7d|")]

/-- A page that knows the variables, a third one, and a title of the content page. -/
def fullPage : Context :=
  .ofLayer [("site", .value (.text "Site")), ("count", .value (.int 1)),
    ("secret", .value (.text "x")),
    (contentName, .source { text := some "$\x7bsecret\x7d" })]

/-- A page that knows the same texts for the variables, and nothing else. -/
def sparePage : Context :=
  .ofOutermost [[("count", .value (.text "1"))], [("site", .value (.text "Site"))]]

/-- Neither a third variable nor the title of a side with a value shows in the outcome. -/
theorem run_sees_only_greeting :
    SeenAlike {} (some greetingLayout) (some (inlineTitle ["Home"])) fullPage sparePage ∧
    run {} Expression.evaluate Element.merge (some greetingLayout) (some (inlineTitle ["Home"]))
        fullPage =
      run {} Expression.evaluate Element.merge (some greetingLayout)
        (some (inlineTitle ["Home"])) sparePage ∧
    fullPage.string? "secret" ≠ sparePage.string? "secret" ∧
    run {} Expression.evaluate Element.merge (some greetingLayout) (some (inlineTitle ["Home"]))
        (sparePage.push [(contentName, .source { model := some (.text "Old") })]) =
      run {} Expression.evaluate Element.merge (some greetingLayout)
        (some (inlineTitle ["Home"])) sparePage := by
  obtain ⟨seen, -, hidden⟩ := run_sees_only
  have alike : SeenAlike {} (some greetingLayout) (some (inlineTitle ["Home"])) fullPage
      sparePage := by
    refine ⟨by decide +kernel, fun side lacking => ?_⟩
    cases side <;> exact absurd lacking (by decide)
  -- The pushed layer binds nothing but the name of a side that has a value.
  refine ⟨alike, seen _ _ _ _ _ alike, by decide +kernel, ?_⟩
  refine hidden _ _ _ _ _ .content (by decide) fun name other => ?_
  simp [Context.binding?, Context.push, Context.innermost?, Dictionary.get?, Ne.symm other,
    show contentName = Side.content.name from rfl]

end Titling.Title
