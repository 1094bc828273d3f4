import Titling.Markup.Element
import Titling.Settings
import Titling.Text.Occurrence

/-! Combining the titles of a layout and a content page, or putting that off for a pattern. -/

namespace Titling.Title

open Titling.Markup

/-- Merges a layout element with a content element. -/
abbrev Merger := (layout content : Option Element) → Option Element

/-- The attribute in which a placeholder keeps the expression of the content title. -/
def contentAttribute : String := "data-layout-content-title"

/-- The attribute in which a placeholder keeps the expression of the layout title. -/
def layoutAttribute : String := "data-layout-decorator-title"

/-- Inline text as a quoted literal; it is markup already, so only the quote needs a reference. -/
def inlineLiteral (content : String) : String :=
  -- All else stays as it is, since evaluating the literal must give the same markup back.
  String.ofList ('\'' :: Text.replaceAll ['\''] "&#39;".toList content.toList ++ ['\''])

/-- The text that an element begins with, if its first child is a text. -/
def inlineText? (title : Element) : Option String :=
  -- Later texts do not count, and an element in front of a text leaves the title without one.
  match title.children with
  | .text content :: _ => some content
  | _ => none

/-- The expression of a title's text: its text attribute if that says something, or its own text. -/
def expression? (settings : Settings) (title : Element) : Option String :=
  match title.get? settings.textAttribute with
  | some explicit =>
    -- An empty attribute says no more than a missing one.
    if explicit.isEmpty then (inlineText? title).map inlineLiteral else some explicit
  | none => (inlineText? title).map inlineLiteral

/-- The pattern on either title; the one of the content page wins. -/
def pattern? (settings : Settings) (layout content : Option Element) : Option String :=
  -- A pattern counts even if it is empty, as long as the attribute is there.
  match content.bind (·.get? settings.directive) with
  | some pattern => some pattern
  | none => layout.bind (·.get? settings.directive)

/-- A title that keeps a pattern and both expressions until they can be evaluated. -/
def placeholder (settings : Settings) (pattern : String) (layout content : Option Element) :
    Element :=
  -- What a side lacks leaves no attribute behind.
  Element.ofOptional "title" (Dictionary.ofEntries
    [(settings.directive, some pattern),
     (contentAttribute, content.bind (expression? settings)),
     (layoutAttribute, layout.bind (expression? settings))])

/-- The titles merged like any other elements, or a placeholder if one of them has a pattern. -/
def combine (settings : Settings) (merger : Merger) (layout content : Option Element) :
    Option Element :=
  -- With a pattern the merger is not asked at all.
  match pattern? settings layout content with
  | some pattern => some (placeholder settings pattern layout content)
  | none => merger layout content

end Titling.Title
