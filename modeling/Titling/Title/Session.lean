import Titling.Title.Announce

/-! Titles made one after another, with one record and one latch for warnings over all of them. -/

namespace Titling.Title

open Titling.Markup
open Titling.Message

/-- A title to be made: from parts that are given, on an element, or by a pass over a page. -/
inductive Task where
  | compose (pattern : Option String) (content layout : Option Node)
  | fill (settings : Settings) (evaluator : Evaluator) (element : Element) (context : Context)
  | pass (settings : Settings) (evaluator : Evaluator) (merger : Merger)
      (layout content : Option Element) (context : Context)

/-- What comes of a task. -/
inductive Product where
  | composed (title : Node)
  | filled (answer : Except Error Filled)
  | passed (answer : Except Error (Option Element × Record))

/-- What comes of a task by itself, and what there is to tell of it. -/
def Task.perform : Task → Product × List Notice
  | .compose pattern content layout =>
    (.composed (Title.compose pattern content layout), composeNotices pattern)
  | .fill settings evaluator element context =>
    match Title.fill settings evaluator element context with
    | .ok title => (.filled (.ok title), title.notices)
    | .error error => (.filled (.error error), [])
  | .pass settings evaluator merger layout content context =>
    let outcome := run settings evaluator merger layout content context
    (.passed outcome.answer, outcome.notices)

/-- What a product leaves in the record of its session; a pass has a record of its own. -/
def Product.entries : Product → Dictionary (Option Node)
  | .filled (.ok title) => title.entries
  | _ => []

/-- What lasts from one task to the next. -/
structure Session where
  record : Record := {}
  latch : Latch := {}
deriving DecidableEq

namespace Session

/-- A product with what the renderer did; a warning that cannot be sent takes its place. -/
abbrev Answer := Except SendError (Product × List Emission)

/-- Carries out a task. The record is kept as it was if there is no answer. -/
def perform (bus : Bus) (session : Session) (task : Task) : Answer × Session :=
  -- The task is done before anything is said, so a warning has no part in what comes of it.
  let (product, notices) := task.perform
  match announce session.latch bus notices with
  | (.ok (_, emissions), latch) =>
    (.ok (product, emissions), { record := session.record.update product.entries, latch })
  | (.error error, latch) => (.error error, { session with latch })

/-- Carries out tasks in turn; each answer stands with the record as it then is. -/
def performAll (bus : Bus) : Session → List Task → List (Answer × Record)
  | _, [] => []
  | session, task :: rest =>
    let (answer, session) := session.perform bus task
    (answer, session.record) :: performAll bus session rest

end Session

end Titling.Title
