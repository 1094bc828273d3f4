import Titling.Title.Combine
import Titling.Title.Compose
import Titling.Title.Expression
import Titling.Title.Record
import Titling.CharacterReference.Decode
import Titling.Markup.Escape

/-! Carrying out the pattern directive on a title element. -/

namespace Titling.Title

open Titling.Markup

/-- The name under which the content page's title is registered. -/
def contentName : String := "drape::ContentTitle"

/-- The name under which the layout page's title is registered. -/
def layoutName : String := "drape::LayoutTitle"

/-- What happens on the way to a title, as far as a log or a warning tells of it. -/
inductive Notice where
  | mergedStructurally
  | deferred (pattern : String)
  | resolving
  | deprecatedToken
  | produced (pattern : Option String) (result : Node)
deriving DecidableEq

/-- What composing a title gives notice of. -/
def composeNotices (pattern : Option String) : List Notice :=
  if asksForNotice pattern then [.deprecatedToken] else []

/-- The text that an evaluated expression stands for, in markup form. -/
def evaluatedText (escape : Bool) (value : String) : Except Error String :=
  -- The value is markup, so it is read once before it is escaped again.
  match CharacterReference.decode? value with
  | some decoded => .ok (if escape then escapeTitle decoded else decoded)
  | none => .error .overlongReference

/-- The title of a source; one with neither expression nor model is no title. -/
def Source.resolve (evaluator : Evaluator) (source : Source) (context : Context) :
    Except Error (Option Node) :=
  -- An expression is evaluated, and a model is a title already.
  match source.text with
  | some expression => do
    let value ← (evaluator expression context).mapError .ofFailure
    let text ← evaluatedText source.escape value
    return some (.text text)
  | none => .ok source.model

/-- The title registered under a name, if there is one. -/
def registered (evaluator : Evaluator) (context : Context) (name : String) :
    Except Error (Option Node) :=
  match context.source? name with
  | some source => source.resolve evaluator context
  | none => .ok none

/-- Tells whether a tag is that of a title; only ASCII letters have its letters as small forms. -/
def isTitleTag (tag : String) : Bool :=
  tag.toList.map Char.toLower == "title".toList

/-- An element without the attributes that only carrying out a directive needs. -/
def withoutDirective (settings : Settings) (element : Element) : Element :=
  -- Both expressions have been evaluated by now, and the pattern has been used.
  ((element.without settings.directive).without contentAttribute).without layoutAttribute

/-- A title element with a new body, the three titles to be recorded, and what happened. -/
structure Filled where
  element : Element
  content : Option Node
  layout : Option Node
  result : Node
  notices : List Notice

/-- The record entries of a filled title. -/
def Filled.entries (filled : Filled) : Dictionary (Option Node) :=
  [(Record.contentKey, filled.content), (Record.layoutKey, filled.layout),
   (Record.resultKey, some filled.result)]

/--
Carries out the directive of an element: its body becomes the composed title. The element is checked
before anything is evaluated, and the content title is evaluated first.
-/
def fill (settings : Settings) (evaluator : Evaluator) (element : Element)
    (context : Context) : Except Error Filled :=
  if isTitleTag element.tag then do
    let pattern := element.get? settings.directive
    -- If the content title fails, the layout title is not evaluated.
    let content ← registered evaluator context contentName
    let layout ← registered evaluator context layoutName
    let result := compose pattern content layout
    return {
      element := (withoutDirective settings element).withChildren result.spread
      content := content
      layout := layout
      result := result
      notices := composeNotices pattern ++ [.produced pattern result] }
  else .error (.wrongHost element.tag settings.directive)

end Titling.Title
