import Titling.Proofs.Markup.Element
import Titling.Title.Pass

/-! What each side of a page contributes to a title whose combination a pattern puts off. -/

namespace Titling.Title

open Titling.CharacterReference
open Titling.Markup

/-- The two pages whose titles are combined. -/
inductive Side where
  | content
  | layout
deriving DecidableEq

namespace Side

/-- The title of a side, given those of both. -/
def of (layout content : Option Element) : Side → Option Element
  | .content => content
  | .layout => layout

/-- The side whose title is combined with that of a side. -/
def other : Side → Side
  | .content => .layout
  | .layout => .content

/-- The name under which a side's title is registered. -/
def name : Side → String
  | .content => contentName
  | .layout => layoutName

/-- The attribute of a placeholder that keeps a side's expression. -/
def slot : Side → String
  | .content => contentAttribute
  | .layout => layoutAttribute

/-- The key under which a side's title is recorded. -/
def key : Side → String
  | .content => Record.contentKey
  | .layout => Record.layoutKey

/-- The expression of a side's title, if it has one. -/
def value? (settings : Settings) (layout content : Option Element) (side : Side) :
    Option String :=
  (side.of layout content).bind (expression? settings)

end Side

/-- The sources of the sides whose titles have an expression. -/
def sideSources (settings : Settings) (layout content : Option Element) : Layer :=
  [Side.content, Side.layout].filterMap fun side =>
    (side.value? settings layout content).map fun expression =>
      (side.name, .source { text := some expression, escape := settings.escapeTitles })

/-- The context in which a pass evaluates: the sources of the sides over what the page knows. -/
def passContext (settings : Settings) (layout content : Option Element) (host : Context) :
    Context :=
  host.push (sideSources settings layout content)

/-- The title that an expression's value is: decoded once, and escaped again if that is wanted. -/
def titleOfValue (settings : Settings) (value : String) : Except Error (Option Node) :=
  match decode? value with
  | some text => .ok (some (.text (if settings.escapeTitles then escapeTitle text else text)))
  | none => .error .overlongReference

/--
What a side contributes: the value of its own expression, or what the page has registered for it.
-/
def contribution (settings : Settings) (evaluator : Evaluator) (layout content : Option Element)
    (host : Context) (side : Side) : Except Error (Option Node) :=
  let inner := passContext settings layout content host
  match side.value? settings layout content with
  | some expression => do
    let value ← (evaluator expression inner).mapError .ofFailure
    titleOfValue settings value
  | none =>
    match host.source? side.name with
    | some source => source.resolve evaluator inner
    | none => .ok none

/-- No directive is the name of an attribute that ends otherwise. -/
theorem directive_ne {settings : Settings} {name : String}
    (ending : name.toList.getLast? ≠ some 'n') : settings.directive ≠ name := by
  rintro rfl
  apply ending
  -- A directive ends in the last letter of its fixed part.
  have last : ":title-pattern".toList.getLast? = some 'n' := by decide
  rw [Settings.directive, String.toList_append, List.getLast?_append, last]
  rfl

/-- A directive is none of the attributes in which expressions are kept. -/
theorem directive_ne_slot (settings : Settings) (side : Side) :
    settings.directive ≠ side.slot := by
  cases side <;> exact directive_ne (by decide)

/-- A placeholder keeps the pattern and the expressions of the sides that have one. -/
theorem placeholder_eq (settings : Settings) (pattern : String) (layout content : Option Element) :
    placeholder settings pattern layout content = {
      tag := "title"
      attributes := (settings.directive, pattern) ::
        [Side.content, Side.layout].filterMap fun side =>
          (side.value? settings layout content).map fun expression =>
            (side.slot, expression) } := by
  -- The three names differ, so no entry takes the place of another.
  have first : settings.directive ≠ contentAttribute := directive_ne_slot settings .content
  have second : settings.directive ≠ layoutAttribute := directive_ne_slot settings .layout
  have third : contentAttribute ≠ layoutAttribute := by decide
  simp only [placeholder, Element.ofOptional, Dictionary.ofEntries, Dictionary.update,
    List.foldl_cons, List.foldl_nil, Dictionary.put, if_neg first, if_neg second, if_neg third,
    Element.present, List.filterMap_cons, List.filterMap_nil, Option.map_some]
  rfl

/-- A placeholder has the pattern it was made for. -/
theorem placeholder_get?_directive (settings : Settings) (pattern : String)
    (layout content : Option Element) :
    (placeholder settings pattern layout content).get? settings.directive = some pattern := by
  rw [placeholder_eq, Element.get?, List.lookup_cons_self]

/-- A placeholder has the directive. -/
theorem has_directive_placeholder (settings : Settings) (pattern : String)
    (layout content : Option Element) :
    (placeholder settings pattern layout content).has settings.directive = true := by
  rw [← Element.isSome_get?, placeholder_get?_directive]
  rfl

/-- A placeholder has the expression of each side, and of no side that has none. -/
theorem placeholder_get?_slot (settings : Settings) (pattern : String)
    (layout content : Option Element) (side : Side) :
    (placeholder settings pattern layout content).get? side.slot =
      side.value? settings layout content := by
  -- The pattern stands first, and it is passed over.
  have other : (side.slot == settings.directive) = false :=
    beq_false_of_ne (Ne.symm (directive_ne_slot settings side))
  rw [placeholder_eq, Element.get?, List.lookup_cons, other]
  cases first : Side.content.value? settings layout content <;>
    cases second : Side.layout.value? settings layout content <;>
    cases side <;>
    simp [first, second, Side.slot, List.lookup_cons, contentAttribute, layoutAttribute]

/-- The sources that a placeholder keeps are those of the sides. -/
theorem deferredSources_placeholder (settings : Settings) (pattern : String)
    (layout content : Option Element) :
    deferredSources settings (placeholder settings pattern layout content) =
      sideSources settings layout content := by
  -- The attributes of the placeholder are the expressions of the sides, or are missing.
  have ofContent := placeholder_get?_slot settings pattern layout content .content
  have ofLayout := placeholder_get?_slot settings pattern layout content .layout
  simp only [Side.slot] at ofContent ofLayout
  simp only [deferredSources, sideSources, ofContent, ofLayout, List.filterMap_cons,
    List.filterMap_nil]
  cases Side.content.value? settings layout content <;>
    cases Side.layout.value? settings layout content <;> rfl

/-- Without what only carrying out the directive needs, a placeholder has no attribute left. -/
theorem withoutDirective_placeholder (settings : Settings) (pattern : String)
    (layout content : Option Element) :
    withoutDirective settings (placeholder settings pattern layout content) =
      { tag := "title" } := by
  -- The pattern and the two expressions are all that a placeholder has.
  rw [placeholder_eq]
  simp only [withoutDirective, Element.without, List.filterMap_cons, List.filterMap_nil]
  cases Side.content.value? settings layout content <;>
    cases Side.layout.value? settings layout content <;>
    simp [Side.slot, contentAttribute, layoutAttribute]

/-- Under the name of a side stands its own source, or what the page has registered. -/
theorem source?_passContext (settings : Settings) (layout content : Option Element)
    (host : Context) (side : Side) :
    (passContext settings layout content host).source? side.name =
      match side.value? settings layout content with
      | some expression => some { text := some expression, escape := settings.escapeTitles }
      | none => host.source? side.name := by
  -- The layer of the pass is asked first, and the page where a side has no source in it.
  have names : contentName ≠ layoutName := by decide
  simp only [Context.source?, Context.binding?, passContext, Context.push, Context.innermost?,
    sideSources, List.filterMap_cons, List.filterMap_nil]
  cases first : Side.content.value? settings layout content <;>
    cases second : Side.layout.value? settings layout content <;>
    cases side <;>
    simp [first, second, names, Ne.symm names, Dictionary.get?, Side.name, Binding.source?]

/-- The title that a pass finds under the name of a side is what the side contributes. -/
theorem registered_passContext (settings : Settings) (evaluator : Evaluator)
    (layout content : Option Element) (host : Context) (side : Side) :
    registered evaluator (passContext settings layout content host) side.name =
      contribution settings evaluator layout content host side := by
  -- The side has a source of its own, or the one that the page has registered is asked.
  rw [registered, source?_passContext, contribution]
  cases own : side.value? settings layout content with
  | none => rfl
  | some expression =>
    -- Both evaluate the same expression, and differ only in how the value becomes a title.
    simp only [Source.resolve]
    congr 1
    funext value
    simp only [evaluatedText, titleOfValue]
    cases decode? value <;> rfl

/-- Which of two texts with the same reading a title is made of makes no difference. -/
theorem titleOfValue_congr {first second : String} (settings : Settings)
    (same : decode? first = decode? second) :
    titleOfValue settings first = titleOfValue settings second := by
  rw [titleOfValue, titleOfValue, same]

/-- The title that a value makes where titles are escaped reads as the value. -/
theorem titleOfValue_eq_ok_iff {settings : Settings} (escaping : settings.escapeTitles = true)
    (value : String) (title : Option Node) :
    titleOfValue settings value = .ok title ↔
      ∃ plain, decode? value = some plain ∧ title = some (.text (escapeTitle plain)) := by
  -- The value is decoded, or there is no title of it at all.
  unfold titleOfValue
  cases decode? value <;> simp [escaping, eq_comm]

section Contribution

variable {settings : Settings} {evaluator : Evaluator} {layout content : Option Element}
  {host : Context} {side : Side}

/-- A side whose expression has a value contributes the title that the value makes. -/
theorem contribution_of_evaluated {expression value : String}
    (own : side.value? settings layout content = some expression)
    (evaluated : evaluator expression (passContext settings layout content host) = .ok value) :
    contribution settings evaluator layout content host side = titleOfValue settings value := by
  simp only [contribution, own, evaluated]
  rfl

/-- A side whose expression has no value fails as the evaluator does. -/
theorem contribution_of_failed {expression : String} {cause : Failure}
    (own : side.value? settings layout content = some expression)
    (failed : evaluator expression (passContext settings layout content host) = .error cause) :
    contribution settings evaluator layout content host side = .error (.ofFailure cause) := by
  simp only [contribution, own, failed]
  rfl

/-- A side with a value contributes a text, if it contributes at all. -/
theorem contribution_of_value {title : Option Node} (escaping : settings.escapeTitles = true)
    (own : (side.value? settings layout content).isSome)
    (contributes : contribution settings evaluator layout content host side = .ok title) :
    ∃ plain, title = some (.text (escapeTitle plain)) := by
  obtain ⟨expression, known⟩ := Option.isSome_iff_exists.mp own
  cases evaluated : evaluator expression (passContext settings layout content host) with
  | error error =>
    -- An expression without a value leaves the side without an answer.
    simp [contribution_of_failed known evaluated] at contributes
  | ok value =>
    rw [contribution_of_evaluated known evaluated] at contributes
    obtain ⟨plain, -, shown⟩ := (titleOfValue_eq_ok_iff escaping value title).mp contributes
    exact ⟨plain, shown⟩

end Contribution

end Titling.Title
