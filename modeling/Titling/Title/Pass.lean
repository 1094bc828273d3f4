import Titling.Title.Directive

/-! One pass over a page's titles: combine them, then resolve the pattern that put that off. -/

namespace Titling.Title

open Titling.Markup

/-- What a pass answers, and what happened in it up to its end. -/
structure Outcome where
  answer : Except Error (Option Element × Record)
  notices : List Notice

/-- The title sources that a placeholder keeps. -/
def deferredSources (settings : Settings) (placeholder : Element) : Layer :=
  let source (name key : String) : Layer :=
    match placeholder.get? name with
    | some expression =>
      [(key, .source { text := some expression, escape := settings.escapeTitles })]
    | none => []
  source contentAttribute contentName ++ source layoutAttribute layoutName

/-- What combining two titles gives notice of. -/
def combineNotice (settings : Settings) (layout content : Option Element) : Notice :=
  match pattern? settings layout content with
  | some pattern => .deferred pattern
  | none => .mergedStructurally

/-- Runs a pass; the context of the page lies under the sources that the placeholder keeps. -/
def run (settings : Settings) (evaluator : Evaluator) (merger : Merger)
    (layout content : Option Element) (context : Context) : Outcome :=
  let combined := combine settings merger layout content
  let first := combineNotice settings layout content
  -- A merger of the caller's own may answer an element with a directive, too.
  match combined.filter (·.has settings.directive) with
  | none => { answer := .ok (combined, {}), notices := [first] }
  | some deferred =>
    -- The sources hide what the page itself has registered under their names.
    let inner := context.push (deferredSources settings deferred)
    match fill settings evaluator deferred inner with
    | .error error => { answer := .error error, notices := [first, .resolving] }
    | .ok filled =>
      { answer := .ok (some filled.element, Record.update {} filled.entries)
        notices := first :: .resolving :: filled.notices }

end Titling.Title
