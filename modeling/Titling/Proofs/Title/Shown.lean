import Titling.Proofs.Markup.Run
import Titling.Proofs.Title.CarriedOut
import Titling.Proofs.Title.Recorded

/-! A title shows what is recorded of it: its body has the markup and the text of the result. -/

namespace Titling.Title

open Titling.Markup
open Titling.Message

/-- After a title is filled, its result is what the record has under its key. -/
theorem title?_update_entries (record : Record) (filled : Filled) :
    (record.update filled.entries).title? Record.resultKey = some filled.result := by
  -- The result is the last of the entries, so no other one takes its place.
  have found : (record.update filled.entries).get? Record.resultKey =
      some (some filled.result) := by
    rw [Record.get?, Record.update, Dictionary.get?_update]
    rfl
  rw [Record.title?, found]
  rfl

/-- A directive that a session carries out is carried out by itself, and its titles are recorded. -/
theorem Session.perform_fill_ok {bus : Bus} {session after : Session} {settings : Settings}
    {evaluator : Evaluator} {element : Element} {context : Context} {filled : Filled}
    {emitted : List Emission}
    (performed : session.perform bus (.fill settings evaluator element context) =
      (.ok (.filled (.ok filled), emitted), after)) :
    fill settings evaluator element context = .ok filled ∧
      after.record = session.record.update filled.entries := by
  have recorded := @record_perform bus session (.fill settings evaluator element context)
  rw [performed] at recorded
  refine ⟨?_, recorded⟩
  rcases announced : announce session.latch bus
      (Task.fill settings evaluator element context).perform.2 with ⟨_ | ⟨warned, sent⟩, latch⟩
  · -- A warning that cannot be sent takes the place of the title.
    rw [perform_of_unsent announced] at performed
    simp at performed
  · rw [perform_of_announced announced, Task.perform] at performed
    cases found : fill settings evaluator element context with
    | error error => simp [found] at performed
    | ok title =>
      simp only [found, Prod.mk.injEq, Except.ok.injEq, Product.filled.injEq] at performed
      rw [performed.1.1]

section Filled

variable {settings : Settings} {evaluator : Evaluator} {element : Element} {context : Context}
  {filled : Filled}

/-- The markup of a filled title is that of the result, between the tags of the element. -/
theorem markup_filled_element (carried : fill settings evaluator element context = .ok filled) :
    filled.element.markup =
      startTag element.tag
          (element.attributes.filter fun pair => pair.1 ∉ directiveAttributes settings) ++
        filled.result.markup ++ endTag element.tag := by
  rw [filled_element carried, Element.markup, Element.node, Node.markup, Node.markupAll_spread]

/-- The text of a filled title is that of the result. -/
theorem plainText_filled_element
    (carried : fill settings evaluator element context = .ok filled) :
    filled.element.plainText = filled.result.plainText := by
  rw [filled_element carried, Element.plainText, Node.plainTextAll_spread]

end Filled

/--
A directive that is carried out leaves a title that shows what is recorded as its result.

Whatever the result is, a text, an element or a fragment of any depth, its markup stands between the
tags of the element, from which the attributes of the directive are gone wherever they stood; all
others are kept in their order. The text of the title is that of the result. This holds in every
session, whatever was recorded before.
-/
theorem shown_as_recorded {bus : Bus} {session after : Session} {settings : Settings}
    {evaluator : Evaluator} {element : Element} {context : Context} {filled : Filled}
    {emitted : List Emission}
    (performed : session.perform bus (.fill settings evaluator element context) =
      (.ok (.filled (.ok filled), emitted), after)) :
    ∃ result, after.record.title? "resultingTitle" = some result ∧
      filled.element.markup =
        startTag element.tag (element.attributes.filter fun pair =>
            pair.1 ∉ [settings.directive, "data-layout-content-title",
              "data-layout-decorator-title"]) ++
          result.markup ++ endTag element.tag ∧
      filled.element.plainText = result.plainText := by
  -- What is recorded is what was filled in, so both texts can be read from the element.
  obtain ⟨carried, recorded⟩ := Session.perform_fill_ok performed
  refine ⟨filled.result, ?_, markup_filled_element carried, plainText_filled_element carried⟩
  rw [recorded]
  exact title?_update_entries session.record filled

/-- A title with attributes of a directive, some of them twice, among others. -/
def crowdedTitle : Element where
  tag := "Title"
  attributes := [("id", "a"), ("layout:title-pattern", "$LAYOUT_TITLE: $CONTENT_TITLE"),
    ("data-layout-content-title", "'x'"), ("class", "b"), ("layout:title-pattern", "z"),
    ("data-layout-decorator-title", "'y'"), ("id", "c")]
  children := [.text "Old"]

/-- A title of fragments in one another. -/
def nestedTitle : Node :=
  .fragment [.fragment [.text "Tom ", .element "b" [] [.text "&amp;"]], .text " Jerry"]

/-- The directive of the crowded title, to be filled with the nested title for the content. -/
def crowdedTask : Task :=
  .fill {} Expression.evaluate crowdedTitle
    (.ofLayer [(contentName, .source { model := some nestedTitle }),
      (layoutName, .source { model := some (.text "Site") })])

/-- A crowded title shows what is recorded in the place of an older title. -/
theorem shown_as_recorded_crowded :
    ∃ filled after,
      Session.perform { find := fun _ => .ok "" }
          { record := passRecord none none (.text "Old") } crowdedTask =
        (.ok (.filled (.ok filled), []), after) ∧
      ∃ result, after.record.title? "resultingTitle" = some result ∧
        filled.element.markup =
          "<Title id=\"a\" class=\"b\" id=\"c\">" ++ result.markup ++ "</Title>" ∧
        filled.element.plainText = result.plainText ∧
        result.markup = "Site: Tom <b>&amp;</b> Jerry" := by
  have performed : Session.perform { find := fun _ => .ok "" }
      { record := passRecord none none (.text "Old") } crowdedTask =
      (.ok (.filled (.ok (filledWith {} crowdedTitle (some nestedTitle) (some (.text "Site")))),
        []),
        { record := passRecord (some nestedTitle) (some (.text "Site"))
            (.fragment [.text "Site", .text ": ",
              .fragment [.text "Tom ", .element "b" [] [.text "&amp;"]], .text " Jerry"]) }) := by
    rfl
  -- Of the seven attributes three are left, in their order, one of them twice.
  obtain ⟨result, recorded, markup, text⟩ := shown_as_recorded performed
  have start : startTag crowdedTitle.tag (crowdedTitle.attributes.filter fun pair =>
      pair.1 ∉ [({} : Settings).directive, "data-layout-content-title",
        "data-layout-decorator-title"]) = "<Title id=\"a\" class=\"b\" id=\"c\">" := by
    decide +kernel
  rw [start] at markup
  refine ⟨_, _, performed, result, recorded, markup, text, ?_⟩
  rw [← Option.some.inj recorded]
  decide +kernel

end Titling.Title
